import RecordFilter.Number.Decimal

/-!
# Numbers of different kinds

Whole numbers and quotients, doubles, decimals and complex numbers compare by
their exact values, whatever their kinds.

**Results.**  `Number.eq?` is `none` exactly when a signalling NaN meets a
number it would have to be compared with; a quiet NaN equals nothing.
-/

namespace RecordFilter

/-- A finite double as an exact rational number. -/
def Double.toRat? (x : Double) : Option Rat :=
  x.ratio?.map fun r => mkRat r.1 r.2

/-- A number of the real line, of any kind. -/
inductive RealNumber where
  | rational (r : Rat)
  | double (x : Double)
  | decimal (d : Decimal)
  deriving DecidableEq

/-- A number of any kind. -/
inductive Number where
  | real (x : RealNumber)
  | complex (re im : Double)
  deriving DecidableEq

namespace RealNumber

/-- Is the number a signalling NaN? -/
def isSignaling : RealNumber → Bool
  | .decimal d => d.isSignaling
  | _ => false

/-- Equality of exact values. -/
def eq : RealNumber → RealNumber → Bool
  | .rational r, .rational s => r = s
  | .rational r, .double y => y.toRat? = some r
  | .rational r, .decimal e => e.eqRat r
  | .double x, .rational s => x.toRat? = some s
  | .double x, .double y => x.eq y
  | .double x, .decimal e => e.eqDouble x
  | .decimal d, .rational s => d.eqRat s
  | .decimal d, .double y => d.eqDouble y
  | .decimal d, .decimal e => d.eq e

/-- Is the number zero? -/
def isZero : RealNumber → Bool
  | .rational r => r = 0
  | .double x => x.isZero
  | .decimal d => d.isZero

end RealNumber

namespace Number

/-- A complex number without an imaginary part counts as its real part. -/
def real? : Number → Option RealNumber
  | .real x => some x
  | .complex re im => if im.isZero then some (.double re) else none

/-- Equality of exact values; `none` when a signalling NaN takes part. -/
def eq? (x y : Number) : Option Bool :=
  match x, y with
  | .complex a b, .complex c d => some (a.eq c && b.eq d)
  | _, _ =>
      match x.real?, y.real? with
      | some a, some b =>
          if a.isSignaling || b.isSignaling then none else some (a.eq b)
      | _, _ => some false

/-- Two numbers refuse to be compared only if one of them is a
signalling NaN. -/
theorem exists_of_eq?
    {x y : Number}
    (h : x.eq? y = none) :
    ∃ r s, x.real? = some r ∧ y.real? = some s ∧
      (r.isSignaling = true ∨ s.isSignaling = true) := by
  unfold eq? at h
  split at h
  · cases h
  · split at h
    · rename_i r s hx hy
      refine ⟨r, s, hx, hy, ?_⟩
      split at h
      · rename_i hsignaling
        exact Bool.or_eq_true_iff.mp hsignaling
      · cases h
    · cases h

/-- Is the number zero? -/
def isZero : Number → Bool
  | .real x => x.isZero
  | .complex re im => re.isZero && im.isZero

end Number
end RecordFilter
