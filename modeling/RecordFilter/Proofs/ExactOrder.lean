import RecordFilter.Proofs.Ordering
import RecordFilter.Proofs.Rounding
import Mathlib.Algebra.Order.Field.Rat
import Mathlib.Tactic.NormNum

/-!
# Orderings of exact numbers

This module compares the orderings of numbers, which are read from their nearest
doubles, with the order of the numbers themselves.

**Exact numbers.**  `Value.toRat?` is the rational number that a truth value, a
whole number, a quotient, a finite decimal number or a finite double stands for.

**Main result.**
* `orderings_of_exact`: rounding may make different numbers equal, but it
  never turns an ordering around, and it changes nothing for numbers that
  doubles hold exactly.
-/

namespace RecordFilter

/-! ## Exact values -/

/-- A finite decimal number as an exact rational number. -/
def Decimal.toRat? : Decimal → Option Rat
  | .finite negative coefficient exponent =>
      some (Double.signed negative coefficient * (10 : Rat) ^ exponent)
  | _ => none

/-- A finite number of the real line as an exact rational number. -/
def RealNumber.toRat? : RealNumber → Option Rat
  | .rational r => some r
  | .double x => x.toRat?
  | .decimal d => d.toRat?

/-- The exact rational number that a value stands for. -/
def Value.toRat? (v : Value) : Option Rat :=
  match v.number? with
  | some (.real x) => x.toRat?
  | _ => Option.none

/-! ## Places of exact values -/

namespace Double

theorem key_ofRat
    (r : Rat) :
    (ofRatio (r.num < 0) r.num.natAbs r.den).key = some (place r) := by
  rw [key_ofRatio _ _ r.pos, signed_natAbs, Rat.mkRat_self]

theorem key_ofInt
    (n : Int) :
    (ofInt n).key = some (place n) := by
  exact key_ofRat n

/-- A decimal number, written as a quotient of whole numbers. -/
theorem signed_mul_ten_zpow
    (negative : Bool)
    (coefficient : Nat)
    (exponent : Int) :
    (signed negative coefficient : Rat) * (10 : Rat) ^ exponent =
      mkRat (signed negative (coefficient * 10 ^ exponent.toNat))
        (10 ^ (-exponent).toNat) := by
  rw [Rat.mkRat_eq_div, signed_mul]
  rcases Int.le_total 0 exponent with hnonneg | hneg
  · obtain ⟨k, rfl⟩ := Int.eq_ofNat_of_zero_le hnonneg
    have hden : (-(k : Int)).toNat = 0 := by omega
    rw [hden, Int.toNat_natCast, zpow_natCast]
    push_cast
    rw [div_one]
  · obtain ⟨k, hk⟩ := Int.eq_ofNat_of_zero_le (Int.neg_nonneg_of_nonpos hneg)
    have hexponent : exponent = -(k : Int) := by omega
    have hnum : (-(k : Int)).toNat = 0 := by omega
    rw [hexponent, hnum, Int.neg_neg, Int.toNat_natCast, zpow_neg, zpow_natCast]
    push_cast
    rw [mul_one, div_eq_mul_inv]

end Double

namespace Value

/-- The measure of a value stands at the place of its exact number. -/
theorem key_of_toRat?
    {v : Value}
    {x : Rat}
    (h : v.toRat? = some x) :
    v.measure.key = some (Double.place x) := by
  cases v with
  | bool b =>
      obtain rfl := Option.some.inj h
      cases b
      · have hzero : mkRat (Double.signed false 0) 1 = 0 := by decide
        rw [measure, if_neg Bool.false_ne_true, if_neg Bool.false_ne_true,
          Double.zero, Double.key_ofRatio false 0 Nat.one_pos, hzero]
      · have hone : mkRat (Double.signed false 1) 1 = 1 := by decide
        rw [measure, if_pos rfl, if_pos rfl, Double.one,
          Double.key_ofRatio false 1 Nat.one_pos, hone]
  | int n =>
      obtain rfl := Option.some.inj h
      exact Double.key_ofInt n
  | float d => exact (Double.key_of_toRat? h).1
  | decimal d =>
      cases d with
      | finite negative coefficient exponent =>
          obtain rfl := Option.some.inj h
          rw [Double.signed_mul_ten_zpow]
          exact Double.key_ofDecimal negative coefficient exponent
      | _ => cases h
  | fraction r =>
      obtain rfl := Option.some.inj h
      exact Double.key_ofRat r
  | _ => cases h

end Value

namespace Memory

/-- **The orderings never contradict the order of exact numbers**, and they are
that order for numbers that doubles hold exactly. -/
theorem orderings_of_exact
    {a b : Value}
    {x y : Rat}
    (ha : a.toRat? = some x)
    (hb : b.toRat? = some y) :
    (evaluate .gt a b = .ok true → x > y) ∧
      (evaluate .lt a b = .ok true → x < y) ∧
      (x ≥ y → evaluate .gte a b = .ok true) ∧
      (x ≤ y → evaluate .lte a b = .ok true) ∧
      ((∃ d : Double, d.toRat? = some x) → (∃ d : Double, d.toRat? = some y) →
        OrdersAs a b x y) := by
  have horders :=
    ordersAs_of_key (Value.key_of_toRat? ha) (Value.key_of_toRat? hb)
  refine ⟨?gt, ?lt, ?gte, ?lte, ?exact⟩
  case gt =>
    intro h
    rw [horders.gt, Except.ok.injEq, decide_eq_true_iff] at h
    exact lt_of_not_ge fun hle => absurd (Double.place_mono hle) (not_le.mpr h)
  case lt =>
    intro h
    rw [horders.lt, Except.ok.injEq, decide_eq_true_iff] at h
    exact lt_of_not_ge fun hle => absurd (Double.place_mono hle) (not_le.mpr h)
  case gte =>
    intro h
    rw [horders.gte, decide_eq_true (Double.place_mono h)]
  case lte =>
    intro h
    rw [horders.lte, decide_eq_true (Double.place_mono h)]
  case exact =>
    intro hx hy
    exact horders.of_iff (Double.place_lt_iff hx hy) (Double.place_lt_iff hy hx)

/-- Two neighbouring whole numbers that share a double are not told apart; a
quotient and a truth value that doubles hold exactly are. -/
theorem orderings_of_exact_rounded :
    let large := Value.int 9007199254740993
    let neighbour := Value.decimal (.finite false 9007199254740992 0)
    (large.toRat? = some 9007199254740993 ∧
      neighbour.toRat? = some 9007199254740992) ∧
      evaluate .gte large neighbour = .ok true ∧
      evaluate .gt large neighbour = .ok false ∧
      evaluate .gt (.bool true) (.fraction (1 / 2)) = .ok true := by
  intro large neighbour
  have hlarge : large.toRat? = some 9007199254740993 := by rfl
  have hneighbour : neighbour.toRat? = some 9007199254740992 := by
    refine congrArg some ?_
    norm_num [Double.signed]
  obtain ⟨-, -, hgte, -, -⟩ := orderings_of_exact hlarge hneighbour
  have hexact :
      OrdersAs (.bool true) (.fraction (1 / 2)) (1 : Rat) (1 / 2) := by
    obtain ⟨-, -, -, -, h⟩ :=
      @orderings_of_exact (.bool true) (.fraction (1 / 2)) 1 (1 / 2) rfl rfl
    exact h ⟨.one, by decide +kernel⟩ ⟨.ofRatio false 1 2, by decide +kernel⟩
  refine ⟨⟨hlarge, hneighbour⟩, hgte (by norm_num),
    congrArg Except.ok (by decide +kernel), ?_⟩
  rw [hexact.gt]
  norm_num

end Memory
end RecordFilter
