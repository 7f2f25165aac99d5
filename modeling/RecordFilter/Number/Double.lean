/-!
# Binary64 numbers

A double is held exactly: a sign and a whole number of units of `2 ^ (-1074)`,
the smallest positive double.  Nothing here touches machine floating point.

**Rounding.**  `Double.ofRatio` takes an exact quotient to the nearest double, a
tie going to the even neighbour.  With at most 53 significant bits, the spacing
of doubles around a quotient of `q` units is `2 ^ (log2 q - 52)` units, so
rounding is one whole-number division.

**Order.**  `Double.key` is the value in units, infinities just outside the
finite range; every comparison is a comparison of keys, and a NaN has none.
-/

namespace RecordFilter

/-- The whole number nearest to `n / d`; a half goes to the even neighbour. -/
def roundDiv (n d : Nat) : Nat :=
  if 2 * (n % d) < d then n / d
  else if 2 * (n % d) = d then n / d + n / d % 2
  else n / d + 1

theorem roundDiv_le
    (n d : Nat) :
    roundDiv n d ≤ n / d + 1 := by
  unfold roundDiv
  split
  · omega
  · split
    · have : n / d % 2 < 2 := Nat.mod_lt _ (by omega)
      omega
    · omega

/-- All finite magnitudes, counted in units, lie below this bound. -/
def Double.limit : Nat := Nat.pow 2 2098

/-- The magnitudes a double can hold: at most 53 significant bits,
below the limit. -/
def Double.Representable (units : Nat) : Prop :=
  units < Double.limit ∧ ∃ m s, m < Nat.pow 2 53 ∧ units = m * Nat.pow 2 s

/-- A binary64 number; `units` counts units of `2 ^ (-1074)`. -/
inductive Double where
  | nan
  | infinite (negative : Bool)
  | finite (negative : Bool) (units : Nat) (fits : Double.Representable units)
  deriving DecidableEq

namespace Double

/-- The distance between neighbouring doubles around `n / d` units. -/
def spacing (n d : Nat) : Nat := Nat.pow 2 ((n / d).log2 - 52)

/-- The multiple of the spacing nearest to `n / d` units. -/
def nearestUnits (n d : Nat) : Nat := roundDiv n (d * spacing n d) * spacing n d

/-- The multiple that is rounded to has at most 53 significant bits, or is the
next power. -/
theorem roundDiv_spacing_le
    (n d : Nat) :
    roundDiv n (d * spacing n d) ≤ Nat.pow 2 53 := by
  have hq : n / d < 2 ^ (53 + ((n / d).log2 - 52)) := by
    refine Nat.lt_of_lt_of_le (Nat.lt_log2_self (n := n / d)) ?_
    exact Nat.pow_le_pow_right (by omega) (by omega)
  have hlt : n / d / spacing n d < 2 ^ 53 := by
    rw [show spacing n d = 2 ^ ((n / d).log2 - 52) from rfl,
      Nat.div_lt_iff_lt_mul (Nat.two_pow_pos _), ← Nat.pow_add]
    exact hq
  refine Nat.le_trans (roundDiv_le _ _) ?_
  rw [← Nat.div_div_eq_div_mul, Nat.pow_eq]
  omega

theorem representable_nearestUnits
    {n d : Nat}
    (h : nearestUnits n d < limit) :
    Representable (nearestUnits n d) := by
  refine ⟨h, ?_⟩
  have hm := roundDiv_spacing_le n d
  simp only [Nat.pow_eq] at hm ⊢
  rcases Nat.lt_or_ge (roundDiv n (d * spacing n d)) (2 ^ 53) with hlt | hge
  · exact ⟨_, (n / d).log2 - 52, hlt, rfl⟩
  · refine ⟨1, 53 + ((n / d).log2 - 52), by omega, ?_⟩
    rw [nearestUnits, Nat.le_antisymm hm hge,
      show spacing n d = 2 ^ ((n / d).log2 - 52) from rfl, Nat.pow_add,
        Nat.one_mul]

/-- The double nearest to `n / d` units, negated if asked; too many units are
infinite. -/
def ofUnits (negative : Bool) (n d : Nat) : Double :=
  if h : nearestUnits n d < limit then
    .finite negative _ (representable_nearestUnits h)
  else
    .infinite negative

/-- The double nearest to `n / d`, negated if asked. -/
def ofRatio (negative : Bool) (n d : Nat) : Double :=
  ofUnits negative (n * Nat.pow 2 1074) d

/-- The double nearest to a whole number. -/
def ofInt (n : Int) : Double := ofRatio (n < 0) n.natAbs 1

/-- How many decimal digits `n` has; zero has one. -/
def digitCount (n : Nat) : Nat := (Nat.toDigits 10 n).length

/--
The double nearest to `coefficient * 10 ^ exponent`.  Beyond 400 decimal
places on either side the answer is an infinity or a zero, so no huge power
is ever formed.
-/
def ofDecimal (negative : Bool) (coefficient : Nat) (exponent : Int) : Double :=
  if coefficient = 0 then ofRatio negative 0 1
  else if exponent + digitCount coefficient > 400 then .infinite negative
  else if exponent + digitCount coefficient < -400 then ofRatio negative 0 1
  else if exponent < 0 then
    ofRatio negative coefficient (Nat.pow 10 exponent.natAbs)
  else ofRatio negative (coefficient * Nat.pow 10 exponent.natAbs) 1

/-- Zero. -/
def zero : Double := ofRatio false 0 1

/-- One. -/
def one : Double := ofRatio false 1 1

/-- A whole number with a sign of its own, so that zero can be negative. -/
def signed (negative : Bool) (n : Nat) : Int :=
  if negative then -(n : Int) else n

/-- The place of a number in the order of doubles, in units; a NaN has none. -/
def key : Double → Option Int
  | .nan => none
  | .infinite negative => some (signed negative limit)
  | .finite negative units _ => some (signed negative units)

/-- Compares the places of two numbers; false as soon as one of
them is a NaN. -/
def compareKeys (test : Int → Int → Bool) (x y : Double) : Bool :=
  match x.key, y.key with
  | some a, some b => test a b
  | _, _ => false

/-- `x > y`. -/
def gt (x y : Double) : Bool := compareKeys (fun a b => a > b) x y

/-- `x ≥ y`. -/
def ge (x y : Double) : Bool := compareKeys (fun a b => a ≥ b) x y

/-- `x < y`. -/
def lt (x y : Double) : Bool := compareKeys (fun a b => a < b) x y

/-- `x ≤ y`. -/
def le (x y : Double) : Bool := compareKeys (fun a b => a ≤ b) x y

/-- Numeric equality: the two zeros agree, and a NaN equals nothing. -/
def eq (x y : Double) : Bool := compareKeys (fun a b => a = b) x y

/-- Is the number a NaN? -/
def isNaN : Double → Bool
  | .nan => true
  | _ => false

/-- Is the number positive or negative zero? -/
def isZero (x : Double) : Bool := x.key = some 0

/-- The sum of a whole number and a finite double, rounded once. -/
def addInt (n : Int) : Double → Double
  | .finite negative units _ =>
      let total := n * Nat.pow 2 1074 + signed negative units
      ofUnits (total < 0) total.natAbs 1
  | x => x

/-- A finite double as numerator over the fixed denominator `2 ^ 1074`. -/
def ratio? : Double → Option (Int × Nat)
  | .finite negative units _ => some (signed negative units, Nat.pow 2 1074)
  | _ => none

end Double
end RecordFilter
