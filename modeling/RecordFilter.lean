import RecordFilter.InputModel.OfFilter
import RecordFilter.Memory.Search
import RecordFilter.Memory.Session
import RecordFilter.Registry.Session
import RecordFilter.Proofs.Agreement
import RecordFilter.Proofs.Assembly
import RecordFilter.Proofs.AttributeNames
import RecordFilter.Proofs.FieldReading
import RecordFilter.Proofs.Inspection
import RecordFilter.Proofs.MappingForm
import RecordFilter.Proofs.Matching
import RecordFilter.Proofs.ModelInputs
import RecordFilter.Proofs.Occurrence
import RecordFilter.Proofs.Questions
import RecordFilter.Proofs.RegistryHistory
import RecordFilter.Proofs.RegistryRuns
import RecordFilter.Proofs.TypedInputs
import RecordFilter.Proofs.ExactOrder
import RecordFilter.Proofs.Chronology
import RecordFilter.Proofs.Renaming
import RecordFilter.Proofs.Labels
import RecordFilter.Proofs.Wildcards
import RecordFilter.Proofs.Membership
import RecordFilter.Proofs.Conditions
import RecordFilter.Proofs.Separation
import RecordFilter.Proofs.Duality
import RecordFilter.Proofs.PathComposition
import RecordFilter.Proofs.SplitInputs
import RecordFilter.Proofs.Misuse
import RecordFilter.Proofs.Independence
import RecordFilter.Proofs.Normalisation
import RecordFilter.Proofs.Requirements
import RecordFilter.Proofs.FieldOrder
import RecordFilter.Proofs.PathTypes
import RecordFilter.Proofs.WiderSearch
import RecordFilter.Proofs.ShapeGrowth
