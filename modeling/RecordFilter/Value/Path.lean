import RecordFilter.Value.Equality

/-!
# Field paths

A path names a field of a record, or with dots a field of a field.

**Reading.**  A mapping is read by its keys, anything else by its attributes.
What is missing reads as the missing value, and nothing is looked up behind a
missing value.

**Attributes** are those of objects and models, and of other values the parts
that are data: of numbers, dates, times, durations, ranges, members of
enumerations and filters.  What else they have reads as missing here: methods,
time zones, what belongs to a class, the mapping behind a view, and what is
computed on demand, such as the operator of a comparison.
-/

namespace RecordFilter

namespace Path

/-- The parts between the dots. -/
def split : List Char → List (List Char)
  | [] => [[]]
  | c :: rest =>
      if c = '.' then [] :: split rest
      else
        match split rest with
        | [] => [[c]]
        | part :: parts => (c :: part) :: parts

/-- The names on a path, from the outside in. -/
def segments (path : String) : List String :=
  (split path.toList).map String.ofList

theorem split_ne_nil
    (cs : List Char) :
    split cs ≠ [] := by
  cases cs with
  | nil => simp [split]
  | cons c rest =>
      rw [split]
      split
      · simp
      · split <;> simp

theorem segments_ne_nil
    (path : String) :
    segments path ≠ [] :=
  fun h => split_ne_nil _ (List.map_eq_nil_iff.mp h)

/-- A dot between two paths joins their parts. -/
theorem split_append_dot
    (cs ds : List Char) :
    split (cs ++ '.' :: ds) = split cs ++ split ds := by
  induction cs with
  | nil => simp [split]
  | cons c rest ih =>
      rw [List.cons_append, split, split, ih]
      by_cases h : c = '.'
      · simp [h]
      · cases hs : split rest with
        | nil => exact absurd hs (split_ne_nil rest)
        | cons part parts => simp [h]

/-- Without a dot there is one part. -/
theorem split_of_undotted
    {cs : List Char}
    (h : '.' ∉ cs) :
    split cs = [cs] := by
  induction cs with
  | nil => rfl
  | cons c rest ih =>
      rw [List.mem_cons, not_or] at h
      have hc : c ≠ '.' := fun hc => h.1 hc.symm
      rw [split, if_neg hc, ih h.2]

theorem segments_dot
    (path rest : String) :
    segments (path ++ "." ++ rest) = segments path ++ segments rest := by
  have hchars :
      (path ++ "." ++ rest).toList = path.toList ++ '.' :: rest.toList := by
    simp
  unfold segments
  rw [hchars, split_append_dot, List.map_append]

theorem segments_of_undotted
    {path : String}
    (h : '.' ∉ path.toList) :
    segments path = [path] := by
  unfold segments
  rw [split_of_undotted h, List.map_singleton, String.ofList_toList]

end Path

namespace Value

/-- The real and imaginary part of a number. -/
def realPart? : Value → Option (Value × Value)
  | .bool b => some (.int (if b then 1 else 0), .int 0)
  | .int n => some (.int n, .int 0)
  | .float x => some (.float x, .float .zero)
  | .decimal d => some (.decimal d, .decimal (.finite false 0 0))
  | .fraction r => some (.fraction r, .int 0)
  | .complex re im => some (.float re, .float im)
  | _ => Option.none

/-- The numerator and denominator of a quotient. -/
def quotient? : Value → Option (Int × Nat)
  | .bool b => some (if b then 1 else 0, 1)
  | .int n => some (n, 1)
  | .fraction r => some (r.num, r.den)
  | _ => Option.none

/-- The parts of a date. -/
def dateAttribute? (name : String) (d : Date) : Option Value :=
  let (year, month, day) := d.civil
  match name with
  | "year" => some (.int year)
  | "month" => some (.int month)
  | "day" => some (.int day)
  | _ => Option.none

/-- The parts of a time of day. -/
def clockAttribute? (name : String) (t : ClockTime) : Option Value :=
  match name with
  | "hour" => some (.int t.hour)
  | "minute" => some (.int t.minute)
  | "second" => some (.int t.second)
  | "microsecond" => some (.int t.microsecond)
  | "fold" => some (.int t.fold.toNat)
  | _ => Option.none

/-- The parts of a duration. -/
def durationAttribute? (name : String) (d : Duration) : Option Value :=
  match name with
  | "days" => some (.int d.days)
  | "seconds" => some (.int (d.restMicros / 1000000 : Nat))
  | "microseconds" => some (.int (d.restMicros % 1000000 : Nat))
  | _ => Option.none

/-- The ends and the step of a range. -/
def rangeAttribute? (name : String) (start stop step : Int) : Option Value :=
  match name with
  | "start" => some (.int start)
  | "stop" => some (.int stop)
  | "step" => some (.int step)
  | _ => Option.none

/-- The parts of a number. -/
def numberAttribute? (name : String) (v : Value) : Option Value :=
  match name with
  | "real" => v.realPart?.map (·.1)
  | "imag" => v.realPart?.map (·.2)
  | "numerator" => v.quotient?.map fun q => .int q.1
  | "denominator" => v.quotient?.map fun q => .int q.2
  | _ => Option.none

/-- The text and the name of a member of an enumeration. -/
def memberAttribute? (name text label : String) : Option Value :=
  match name with
  | "value" => some (.text text)
  | "name" => some (.text label)
  | _ => Option.none

/-- What a comparison was declared with. -/
def comparisonAttribute? (name : String) (kind field ignoreCase : Value) :
    Option Value :=
  match name with
  | "kind" => some kind
  | "field" => some field
  | "case_insensitive" => some ignoreCase
  | _ => Option.none

/-- What a group was declared with. -/
def groupAttribute? (name : String) (kind : Value) (conditions : List Value) :
    Option Value :=
  match name with
  | "kind" => some kind
  | "conditions" => some (.tuple conditions)
  | _ => Option.none

/-- The attributes of simple values and of filters. -/
def builtinAttribute? (name : String) (v : Value) : Option Value :=
  match v with
  | .date d => dateAttribute? name d
  | .clock t => clockAttribute? name t
  | .moment m => (dateAttribute? name m.date).or (clockAttribute? name m.clock)
  | .duration d => durationAttribute? name d
  | .range start stop step => rangeAttribute? name start stop step
  | .kind k => memberAttribute? name k.text k.label
  | .operator op => memberAttribute? name op.text op.label
  | .comparison k field ignoreCase =>
      comparisonAttribute? name k field ignoreCase
  | .group k conditions => groupAttribute? name k conditions
  | _ => numberAttribute? name v

/-- An attribute of a value that is not a mapping. -/
def attribute? (name : String) (v : Value) : Option Value :=
  match v with
  | .object _ attributes => attributes.lookup name
  | .model _ fields => (fields.lookup name).map (·.2)
  | _ => v.builtinAttribute? name

/-- The field of a record under a name; a missing one reads as the
missing value. -/
def get (name : String) (v : Value) : Value :=
  match v with
  | .mapping _ entries => (field? name entries).getD .none
  | _ => (v.attribute? name).getD .none

/-- Follows names from the outside in, as long as there is something
to look into. -/
def follow : List String → Value → Value
  | [], v => v
  | name :: rest, v => if v.isNone then .none else follow rest (v.get name)

/-- The value at a path; a path without a dot is read at once. -/
def read (path : String) (v : Value) : Value :=
  match Path.segments path with
  | [name] => v.get name
  | names => follow names v

end Value
end RecordFilter
