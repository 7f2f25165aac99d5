import RecordFilter.Memory.Operator
import Mathlib.Order.Lattice

/-!
# The orderings of values

This module says what the four orderings answer for any two values.

**Numeric form.**  `Value.isMeasured` tells which values have a number on the
scale of doubles, without computing it: numbers other than NaN, texts in which
such a number is written, durations, and moments with a timestamp.

**Answers.**  Two values with a numeric form are ordered as their places in the
order of doubles are; the four orderings of any other two values are false.

**Main result.**
* `orderings_coherent`: the orderings always answer, and agree with one another
  as those of one linear order do, on all values that have a numeric form.
-/

namespace RecordFilter

/-! ## Numbers that are not NaN -/

namespace Double

@[simp] theorem isNaN_nan :
    nan.isNaN = true := by
  rfl

@[simp] theorem isNaN_infinite
    (negative : Bool) :
    (infinite negative).isNaN = false := by
  rfl

@[simp] theorem isNaN_ofUnits
    (negative : Bool)
    (n d : Nat) :
    (ofUnits negative n d).isNaN = false := by
  unfold ofUnits
  split <;> rfl

@[simp] theorem isNaN_ofRatio
    (negative : Bool)
    (n d : Nat) :
    (ofRatio negative n d).isNaN = false := by
  rw [ofRatio, isNaN_ofUnits]

@[simp] theorem isNaN_ofDecimal
    (negative : Bool)
    (coefficient : Nat)
    (exponent : Int) :
    (ofDecimal negative coefficient exponent).isNaN = false := by
  unfold ofDecimal
  split
  · rw [isNaN_ofRatio]
  · split
    · rfl
    · split
      · rw [isNaN_ofRatio]
      · split <;> rw [isNaN_ofRatio]

/-- A sum with a whole number is NaN only if the other part is. -/
@[simp] theorem isNaN_addInt
    (n : Int)
    (x : Double) :
    (addInt n x).isNaN = x.isNaN := by
  cases x with
  | finite negative units fits =>
      simp only [addInt, isNaN_ofUnits]
      rfl
  | _ => rfl

/-- A number other than NaN has a place. -/
theorem exists_key
    {x : Double}
    (h : x.isNaN = false) :
    ∃ p, x.key = some p := by
  cases x with
  | nan => cases h
  | _ => exact ⟨_, rfl⟩

theorem compareKeys_of_isNaN
    (test : Int → Int → Bool)
    {x y : Double}
    (h : x.isNaN = true ∨ y.isNaN = true) :
    compareKeys test x y = false := by
  cases x with
  | nan => rfl
  | _ =>
      cases y with
      | nan => rfl
      | _ => rcases h with h | h <;> cases h

theorem compareKeys_swap
    (test : Int → Int → Bool)
    (x y : Double) :
    compareKeys test x y = compareKeys (fun p q => test q p) y x := by
  unfold compareKeys
  cases x.key <;> cases y.key <;> rfl

/-- A comparison of places is transitive if the test is; a NaN in the middle
ends the chain. -/
theorem compareKeys_trans
    {test : Int → Int → Bool}
    {x y z : Double}
    (htest : ∀ p q r, test p q = true → test q r = true → test p r = true)
    (hxy : compareKeys test x y = true)
    (hyz : compareKeys test y z = true) :
    compareKeys test x z = true := by
  unfold compareKeys at hxy hyz ⊢
  cases hx : x.key with
  | none => simp only [hx, Bool.false_eq_true] at hxy
  | some p =>
      cases hy : y.key with
      | none => simp only [hx, hy, Bool.false_eq_true] at hxy
      | some q =>
          cases hz : z.key with
          | none => simp only [hy, hz, Bool.false_eq_true] at hyz
          | some r =>
              simp only [hx, hy, hz] at hxy hyz ⊢
              exact htest p q r hxy hyz

end Double

/-! ## Values with a numeric form -/

namespace Moment

/-- Has the moment a timestamp? -/
def hasTimestamp (m : Moment) : Bool := m.clock.offset.isSome || m.hasReading

variable {m : Moment}

theorem timestamp?_of_offset
    {offset : Duration}
    (h : m.clock.offset = some offset) :
    m.timestamp? = some (Duration.seconds ⟨m.instant⟩) := by
  unfold timestamp?
  rw [h]

theorem timestamp?_of_hasReading
    (hoffset : m.clock.offset = none)
    (hreading : m.hasReading = true) :
    m.timestamp? =
      some (Double.addInt (m.localMicros.fdiv 1000000)
        (.ofRatio false m.clock.microsecond 1000000)) := by
  unfold timestamp?
  rw [hoffset]
  simp only [hreading, if_true]

theorem timestamp?_eq_none
    (h : m.hasTimestamp = false) :
    m.timestamp? = none := by
  unfold hasTimestamp at h
  rw [Bool.or_eq_false_iff, Option.isSome_eq_false_iff,
    Option.isNone_iff_eq_none] at h
  unfold timestamp?
  rw [h.1]
  simp only [h.2, Bool.false_eq_true, if_false]

end Moment

namespace Value

/-- Is a number other than NaN written in the text?  A blank text
counts as zero. -/
def isNumeral (s : String) : Bool :=
  let body := Text.strip s.toList
  body.isEmpty || (Double.ofText? body).any fun x => !x.isNaN

/-- Has the value a numeric form? -/
def isMeasured (v : Value) : Bool :=
  match v with
  | .bool _ | .int _ | .fraction _ | .duration _ => true
  | .float x => !x.isNaN
  | .decimal d => !d.isNaN
  | .foreignNumber _ failure _ => failure = .overflow
  | .date d => (Moment.ofDate d).hasTimestamp
  | .moment m => m.hasTimestamp
  | _ => v.text?.any isNumeral

theorem isNaN_textMeasure
    (s : String) :
    (textMeasure s).isNaN = !isNumeral s := by
  simp only [textMeasure, isNumeral]
  cases (Text.strip s.toList).isEmpty with
  | true => simp [Double.zero]
  | false => cases Double.ofText? (Text.strip s.toList) <;> simp

theorem isNaN_momentMeasure
    (m : Moment) :
    (momentMeasure m).isNaN = !m.hasTimestamp := by
  unfold momentMeasure
  cases hoffset : m.clock.offset with
  | some offset =>
      rw [Moment.timestamp?_of_offset hoffset, Option.getD_some,
        Duration.seconds, Double.isNaN_ofRatio]
      simp [Moment.hasTimestamp, hoffset]
  | none =>
      cases hreading : m.hasReading with
      | true =>
          rw [Moment.timestamp?_of_hasReading hoffset hreading,
            Option.getD_some, Double.isNaN_addInt, Double.isNaN_ofRatio]
          simp [Moment.hasTimestamp, hreading]
      | false =>
          have hnone : m.hasTimestamp = false := by
            simp [Moment.hasTimestamp, hoffset, hreading]
          rw [Moment.timestamp?_eq_none hnone, hnone]
          rfl

/-- The measure is a number exactly for the values with a numeric form. -/
theorem isNaN_measure
    (v : Value) :
    v.measure.isNaN = !v.isMeasured := by
  cases v with
  | bool b => cases b <;> simp [measure, isMeasured, Double.zero, Double.one]
  | int n => simp [measure, isMeasured, Double.ofInt]
  | float x => simp [measure, isMeasured]
  | decimal d =>
      cases d <;> simp [measure, isMeasured, Decimal.toDouble, Decimal.isNaN]
  | fraction r => simp [measure, isMeasured]
  | foreignNumber id failure positive => cases failure <;> rfl
  | date d => exact isNaN_momentMeasure (.ofDate d)
  | moment m => exact isNaN_momentMeasure m
  | duration d => simp [measure, isMeasured, Duration.seconds]
  | text s => exact isNaN_textMeasure s
  | kind k => exact isNaN_textMeasure k.text
  | operator op => exact isNaN_textMeasure op.text
  | _ => rfl

end Value

/-! ## What the orderings answer -/

namespace Memory

/-- The four orderings of two values answer as those of two points
of a line do. -/
structure OrdersAs {α : Type} [LT α] [LE α] [DecidableLT α] [DecidableLE α]
    (a b : Value) (x y : α) : Prop where
  gt : evaluate .gt a b = .ok (decide (x > y))
  gte : evaluate .gte a b = .ok (decide (x ≥ y))
  lt : evaluate .lt a b = .ok (decide (x < y))
  lte : evaluate .lte a b = .ok (decide (x ≤ y))

/-- The four orderings of two values are false. -/
structure Unordered (a b : Value) : Prop where
  gt : evaluate .gt a b = .ok false
  gte : evaluate .gte a b = .ok false
  lt : evaluate .lt a b = .ok false
  lte : evaluate .lte a b = .ok false

/-- Values ordered as two points are ordered as any two points in the
same order. -/
theorem OrdersAs.of_iff
    {α β : Type}
    [LinearOrder α]
    [LinearOrder β]
    {a b : Value}
    {p q : α}
    {x y : β}
    (h : OrdersAs a b p q)
    (hlt : p < q ↔ x < y)
    (hgt : q < p ↔ y < x) :
    OrdersAs a b x y := by
  have hge :
      p ≥ q ↔ x ≥ y := by rw [ge_iff_le, ge_iff_le, ← not_lt, ← not_lt, hlt]
  have hle : p ≤ q ↔ x ≤ y := by rw [← not_lt, ← not_lt, hgt]
  constructor
  · rw [h.gt, decide_eq_decide.mpr hgt]
  · rw [h.gte, decide_eq_decide.mpr hge]
  · rw [h.lt, decide_eq_decide.mpr hlt]
  · rw [h.lte, decide_eq_decide.mpr hle]

/-- Two values with places are ordered as their places. -/
theorem ordersAs_of_key
    {a b : Value}
    {p q : Int}
    (ha : a.measure.key = some p)
    (hb : b.measure.key = some q) :
    OrdersAs a b p q := by
  constructor <;>
    simp only [evaluate, Double.gt, Double.ge, Double.lt, Double.le,
      Double.compareKeys, ha, hb]

/-- A value without a numeric form is above and below nothing. -/
theorem unordered_of_isNaN
    {a b : Value}
    (h : a.measure.isNaN = true ∨ b.measure.isNaN = true) :
    Unordered a b := by
  constructor <;>
    simp only [evaluate, Double.gt, Double.ge, Double.lt, Double.le,
      Double.compareKeys_of_isNaN _ h]

/-- Any two values are ordered as their places, unless one has no
numeric form. -/
theorem exists_ordersAs
    {a b : Value}
    (ha : a.measure.isNaN = false)
    (hb : b.measure.isNaN = false) :
    ∃ p q, a.measure.key = some p ∧ b.measure.key = some q ∧
      OrdersAs a b p q := by
  obtain ⟨p, hp⟩ := Double.exists_key ha
  obtain ⟨q, hq⟩ := Double.exists_key hb
  exact ⟨p, q, hp, hq, ordersAs_of_key hp hq⟩

/-- An ordering read from right to left is the opposite ordering. -/
theorem evaluate_swap
    (a b : Value) :
    evaluate .gt a b = evaluate .lt b a ∧
    evaluate .gte a b = evaluate .lte b a := by
  constructor
  · exact congrArg Except.ok (Double.compareKeys_swap _ a.measure b.measure)
  · exact congrArg Except.ok (Double.compareKeys_swap _ a.measure b.measure)

/-- An ordering that tests the places of its operands is as transitive
as the test. -/
theorem evaluate_trans
    {op : Operator}
    {r : Int → Int → Prop}
    [DecidableRel r]
    [IsTrans Int r]
    {a b c : Value}
    (hop : ∀ a b : Value,
      evaluate op a b = .ok
        (Double.compareKeys (fun p q => decide (r p q)) a.measure b.measure))
    (hab : evaluate op a b = .ok true)
    (hbc : evaluate op b c = .ok true) :
    evaluate op a c = .ok true := by
  rw [hop] at hab hbc ⊢
  refine congrArg Except.ok
    (Double.compareKeys_trans ?_ (Except.ok.inj hab) (Except.ok.inj hbc))
  intro p q t hpq hqt
  rw [decide_eq_true_iff] at hpq hqt ⊢
  exact Trans.trans hpq hqt

/-- The orderings of two points of a line agree with one another. -/
theorem orderings_of_places
    (p q : Int) :
    [decide (p > q), decide (p < q), decide (p ≥ q) && decide (p ≤ q)].count
      true = 1 ∧
      decide (p ≥ q) = !decide (p < q) ∧ decide (p ≤ q) = !decide (p > q) := by
  rcases Int.lt_trichotomy p q with h | rfl | h
  · have hle : p ≤ q := by omega
    have hnot : ¬ q < p ∧ ¬ q ≤ p := by omega
    simp [h, hle, hnot]
  · simp
  · have hle : q ≤ p := by omega
    have hnot : ¬ p < q ∧ ¬ p ≤ q := by omega
    simp [h, hle, hnot]

/-- **The orderings are those of one order.**  They always answer; they are
false for values without a numeric form, and for all other values they agree as
the orderings of a line do. -/
theorem orderings_coherent
    (a b c : Value) :
    (∃ gt gte lt lte : Bool,
      (evaluate .gt a b = .ok gt ∧ evaluate .gte a b = .ok gte ∧
        evaluate .lt a b = .ok lt ∧ evaluate .lte a b = .ok lte) ∧
      (a.isMeasured = false ∨ b.isMeasured = false →
        gt = false ∧ gte = false ∧ lt = false ∧ lte = false) ∧
      (a.isMeasured = true → b.isMeasured = true →
        [gt, lt, gte && lte].count true = 1 ∧ gte = !lt ∧ lte = !gt)) ∧
    a.measure.isNaN = !a.isMeasured ∧
    evaluate .gt a b = evaluate .lt b a ∧
    evaluate .gte a b = evaluate .lte b a ∧
    (evaluate .gt a b = .ok true → evaluate .gt b c = .ok true →
      evaluate .gt a c = .ok true) ∧
    (evaluate .gte a b = .ok true → evaluate .gte b c = .ok true →
      evaluate .gte a c = .ok true) := by
  refine ⟨?_, a.isNaN_measure, (evaluate_swap a b).1, (evaluate_swap a b).2,
    @evaluate_trans .gt (· > ·) _ _ a b c fun _ _ => rfl,
    @evaluate_trans .gte (· ≥ ·) _ _ a b c fun _ _ => rfl⟩
  rcases Bool.eq_false_or_eq_true (a.isMeasured && b.isMeasured) with
      hboth | hsome
  · rw [Bool.and_eq_true] at hboth
    obtain ⟨p, q, -, -, horders⟩ :=
      @exists_ordersAs a b (by simp [a.isNaN_measure, hboth.1])
        (by simp [b.isNaN_measure, hboth.2])
    refine ⟨_, _, _, _, ⟨horders.gt, horders.gte, horders.lt, horders.lte⟩, ?_,
      ?_⟩
    · simp [hboth.1, hboth.2]
    · exact fun _ _ => orderings_of_places p q
  · rw [Bool.and_eq_false_iff] at hsome
    have hunordered : Unordered a b := by
      refine unordered_of_isNaN ?_
      rw [a.isNaN_measure, b.isNaN_measure, Bool.not_eq_true',
        Bool.not_eq_true']
      exact hsome
    refine ⟨_, _, _, _,
      ⟨hunordered.gt, hunordered.gte, hunordered.lt, hunordered.lte⟩,
      fun _ => by simp, ?_⟩
    intro ha hb
    rw [ha, hb] at hsome
    rcases hsome with h | h <;> cases h

/-- A number too large for a double, a date and a negative decimal form a chain;
a signalling NaN stands outside of it. -/
theorem orderings_mixed :
    let huge := Value.foreignNumber 0 .overflow true
    let day := Value.date ⟨738000, by decide⟩
    let debt := Value.decimal (.finite true 15 (-1))
    let signal := Value.decimal (.nan false true 0)
    (huge.isMeasured = true ∧ day.isMeasured = true ∧
      signal.isMeasured = false) ∧
      (evaluate .gt huge day = .ok true ∧ evaluate .gt day debt = .ok true ∧
        evaluate .gt huge debt = .ok true) ∧
      evaluate .lt day huge = .ok true ∧
      evaluate .gte day signal = .ok false := by
  intro huge day debt signal
  obtain ⟨-, -, hswap, -, htrans, -⟩ := orderings_coherent huge day debt
  obtain ⟨gt, gte, lt, lte, ⟨-, hgte, -, -⟩, hfalse, -⟩ :=
    (orderings_coherent day signal debt).1
  have habove : evaluate .gt huge day = .ok true :=
    congrArg Except.ok (by decide +kernel)
  have hbelow : evaluate .gt day debt = .ok true :=
    congrArg Except.ok (by decide +kernel)
  refine ⟨⟨rfl, rfl, rfl⟩, ⟨habove, hbelow, htrans habove hbelow⟩,
    hswap.symm.trans habove, ?_⟩
  rw [hgte, (hfalse (Or.inr rfl)).2.1]

end Memory
end RecordFilter
