import RecordFilter.Proofs.FieldReading

/-!
# Paths in two parts

A dot between two paths makes a longer path.  This module shows that the longer
path reads through the value that the first part leads to, whatever the two
parts are: they may be empty, and they may have dots in them.

**Method.**  A path is read by following its names, and names are followed one
after the other.

**Main result.**
* `read_composed`: a path in two parts is read in two steps, a path
  without a dot is read at once, and where anything on the way is missing,
  so is what is read.
-/

namespace RecordFilter

namespace Value

/-- Names are followed one after the other. -/
theorem follow_append
    (names more : List String)
    (v : Value) :
    v.follow (names ++ more) = (v.follow names).follow more := by
  induction names generalizing v with
  | nil => rfl
  | cons name rest ih =>
      rw [List.cons_append, follow, follow]
      cases hmissing : v.isNone with
      | true => exact (Grammar.follow_none more).symm
      | false => exact ih (v.get name)

/-- What a value has under a name, if it has anything there, is the
missing value. -/
inductive Lacks (name : String) : Value → Prop
  | entry
      {form : MappingForm}
      {entries : List (Value × Value)}
      (nothing : ∀ found, field? name entries = some found → found = .none) :
      Lacks name (.mapping form entries)
  | member
      {v : Value}
      (other : v.entries? = Option.none)
      (nothing : ∀ found, v.attribute? name = some found → found = .none) :
      Lacks name v

theorem Lacks.get_eq_none
    {name : String}
    {v : Value}
    (h : Lacks name v) :
    v.get name = .none := by
  cases h with
  | @entry form entries nothing =>
      change (field? name entries).getD .none = .none
      cases hfound : field? name entries with
      | none => rfl
      | some found => exact nothing found hfound
  | member other nothing =>
      have hget : v.get name = (v.attribute? name).getD .none := by
        cases v with
        | mapping => cases other
        | _ => rfl
      rw [hget]
      cases hfound : v.attribute? name with
      | none => rfl
      | some found => exact nothing found hfound

/-- **Paths compose**, and nothing is read behind what is missing. -/
theorem read_composed
    (v : Value) :
    (∀ path rest,
      v.read (path ++ "." ++ rest) =
        if (v.read path).isNone then .none else (v.read path).read rest) ∧
    (∀ path, '.' ∉ path.toList →
      v.read path = v.get path ∧ v.follow (Path.segments path) = v.get path) ∧
    (∀ path before name after, Path.segments path = before ++ name :: after →
      Lacks name (v.follow before) → v.read path = .none) := by
  refine ⟨?_, ?_, ?_⟩
  · intro path rest
    rw [read_eq_follow, Path.segments_dot, follow_append, ← read_eq_follow,
      ← read_eq_follow]
    cases hmissing : (v.read path).isNone with
    | false => rfl
    | true =>
        have hnone : v.read path = .none := by
          cases hread : v.read path with
          | none => rfl
          | _ => rw [hread] at hmissing; cases hmissing
        rw [hnone, read_eq_follow, Grammar.follow_none]
        rfl
  · intro path hundotted
    have hread : v.read path = v.get path := by
      unfold read
      rw [Path.segments_of_undotted hundotted]
    exact ⟨hread, by rw [← read_eq_follow, hread]⟩
  · intro path before name after hparts hlacks
    have hstep : v.follow (before ++ [name]) = .none := by
      rw [follow_append, follow, follow, hlacks.get_eq_none]
      cases (v.follow before).isNone <;> rfl
    rw [read_eq_follow, hparts, List.append_cons, follow_append, hstep,
      Grammar.follow_none]

/-- A mapping with an object in it, which has a mapping as an attribute. -/
def parcel : Value :=
  .ofFields [
    ("to", .object 0 [
      ("address", .ofFields [("city", .text "Rome"), ("zip", .none)])])]

/-- The city is read through the address.  A zip code that is missing has no
digits, and an empty name in the middle of a path leads to nothing. -/
theorem read_parcel :
    parcel.read "to.address.city" = .text "Rome" ∧
      parcel.read "to.address.zip.digits" = .none ∧
      parcel.read "to..city" = .none := by
  obtain ⟨hsteps, hplain, hlacks⟩ := read_composed parcel
  refine ⟨?_, ?_, ?_⟩
  · refine (hsteps "to" "address.city").trans ?_
    rw [(hplain "to" (by decide)).1]
    rfl
  · exact hlacks _ ["to", "address"] "zip" ["digits"] rfl
      (.entry fun found hfound => (Option.some.inj hfound).symm)
  · exact hlacks _ ["to"] "" ["city"] rfl (.member rfl nofun)

end Value
end RecordFilter
