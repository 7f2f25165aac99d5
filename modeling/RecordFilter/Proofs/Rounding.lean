import RecordFilter.Number.Mixed
import Mathlib.Data.Nat.Log
import Mathlib.Tactic.Ring
import Mathlib.Tactic.Linarith
import Mathlib.Tactic.Zify

/-!
# The order of doubles

This module relates the order of doubles to the order of the exact numbers they
are read from.

**Rounding.**  `roundDiv` and `Double.nearestUnits` are monotone in the
quotient: inside a binade because the spacing is fixed, across binades because a
power of two lies between the roundings.

**Places.**  `Double.place` is the position that an exact number takes in the
order of doubles, the infinities standing beyond all finite positions.

**Main results.**
* `place_mono`: a larger number never has a lower place.
* `place_lt_iff`: between numbers that doubles hold exactly, the places have
  their order.
* `key_ofRatio`, `key_ofDecimal`, `key_of_toRat?`: quotients, decimal numbers
  and doubles stand at the place of their exact number.
-/

namespace RecordFilter

/-! ## Rounding a quotient -/

/-- Quotients that are compared crosswise have whole parts in the same order. -/
theorem div_le_div_of_mul_le
    {n d n' d' : Nat}
    (hd : 0 < d)
    (hd' : 0 < d')
    (h : n * d' ≤ n' * d) :
    n / d ≤ n' / d' := by
  rw [Nat.le_div_iff_mul_le hd']
  refine Nat.le_of_mul_le_mul_right ?_ hd
  calc n / d * d' * d = n / d * d * d' := by ring
    _ ≤ n * d' := Nat.mul_le_mul_right d' (Nat.div_mul_le_self n d)
    _ ≤ n' * d := h

theorem le_roundDiv
    (n d : Nat) :
    n / d ≤ roundDiv n d := by
  unfold roundDiv
  split
  · exact Nat.le_refl _
  · split <;> omega

/-- A whole quotient is its own rounding. -/
theorem roundDiv_mul
    (k : Nat)
    {d : Nat}
    (hd : 0 < d) :
    roundDiv (k * d) d = k := by
  unfold roundDiv
  rw [Nat.mul_mod_left, Nat.mul_zero, if_pos hd, Nat.mul_div_cancel k hd]

/-- A larger quotient is never rounded to less; with equal whole parts the
remainders decide. -/
theorem roundDiv_mono
    {n d n' d' : Nat}
    (hd : 0 < d)
    (hd' : 0 < d')
    (h : n * d' ≤ n' * d) :
    roundDiv n d ≤ roundDiv n' d' := by
  have hquotients := div_le_div_of_mul_le hd hd' h
  rcases Nat.lt_or_eq_of_le hquotients with hlt | heq
  · calc roundDiv n d ≤ n / d + 1 := roundDiv_le n d
      _ ≤ n' / d' := hlt
      _ ≤ roundDiv n' d' := le_roundDiv n' d'
  · have hremainders : n % d * d' ≤ n' % d' * d := by
      have hn : n * d' = n / d * (d * d') + n % d * d' := by
        conv_lhs => rw [← Nat.div_add_mod n d]
        ring
      have hn' : n' * d = n / d * (d * d') + n' % d' * d := by
        conv_lhs => rw [← Nat.div_add_mod n' d', ← heq]
        ring
      rw [hn, hn'] at h
      exact Nat.le_of_add_le_add_left h
    have hbelow : 2 * (n' % d') < d' → 2 * (n % d) < d := by
      intro hlow
      refine Nat.lt_of_mul_lt_mul_right (a := d') ?_
      calc 2 * (n % d) * d' = 2 * (n % d * d') := by ring
        _ ≤ 2 * (n' % d' * d) := Nat.mul_le_mul_left 2 hremainders
        _ = 2 * (n' % d') * d := by ring
        _ < d' * d := Nat.mul_lt_mul_of_pos_right hlow hd
        _ = d * d' := Nat.mul_comm d' d
    have htie : 2 * (n' % d') = d' → 2 * (n % d) ≤ d := by
      intro hhalf
      refine Nat.le_of_mul_le_mul_right ?_ hd'
      calc 2 * (n % d) * d' = 2 * (n % d * d') := by ring
        _ ≤ 2 * (n' % d' * d) := Nat.mul_le_mul_left 2 hremainders
        _ = 2 * (n' % d') * d := by ring
        _ = d * d' := by rw [hhalf, Nat.mul_comm]
    unfold roundDiv
    rw [← heq]
    split <;> split <;> (try split) <;> (try split) <;> omega

namespace Double

/-! ## Rounding to a double -/

/-- One is a positive number of units. -/
theorem unit_pos :
    0 < Nat.pow 2 1074 := by
  generalize 1074 = k
  exact Nat.two_pow_pos k

theorem spacing_pos
    (n d : Nat) :
    0 < spacing n d := by
  exact Nat.two_pow_pos _

/-- A magnitude of at most 53 significant bits is its own rounding, since the
spacing divides it. -/
theorem nearestUnits_mul
    {units d : Nat}
    (hd : 0 < d)
    (hfits : ∃ m s, m < Nat.pow 2 53 ∧ units = m * Nat.pow 2 s) :
    nearestUnits (units * d) d = units := by
  obtain ⟨m, s, hm, hunits⟩ := hfits
  rw [Nat.pow_eq] at hm hunits
  have hlog : units.log2 - 52 ≤ s := by
    rcases Nat.eq_zero_or_pos units with hzero | hpos
    · rw [hzero, Nat.log2_zero]
      omega
    · have hlt : units.log2 < 53 + s := by
        rw [Nat.log2_lt (Nat.pos_iff_ne_zero.mp hpos), hunits, Nat.pow_add]
        exact Nat.mul_lt_mul_of_pos_right hm (Nat.two_pow_pos s)
      omega
  have hspacing : spacing (units * d) d = 2 ^ (units.log2 - 52) := by
    rw [spacing, Nat.mul_div_cancel _ hd, Nat.pow_eq]
  obtain ⟨k, hk⟩ : spacing (units * d) d ∣ units := by
    rw [hspacing, hunits]
    exact Dvd.dvd.mul_left (Nat.pow_dvd_pow 2 (hunits ▸ hlog)) m
  have hsplit : units * d = k * (d * spacing (units * d) d) := by
    conv_lhs => rw [hk]
    ring
  rw [nearestUnits]
  conv_lhs => arg 1; arg 1; rw [hsplit]
  rw [roundDiv_mul k (Nat.mul_pos hd (spacing_pos _ _)), Nat.mul_comm, ← hk]

theorem nearestUnits_zero
    {d : Nat}
    (hd : 0 < d) :
    nearestUnits 0 d = 0 := by
  have h := @nearestUnits_mul 0 d hd ⟨0, 0, Nat.two_pow_pos 53, rfl⟩
  rwa [Nat.zero_mul] at h

theorem spacing_mono
    {n d n' d' : Nat}
    (h : n / d ≤ n' / d') :
    spacing n d ≤ spacing n' d' := by
  refine Nat.pow_le_pow_right (by decide) (Nat.sub_le_sub_right ?_ 52)
  rw [Nat.log2_eq_log_two, Nat.log2_eq_log_two]
  exact Nat.log_mono_right h

/-- Where the spacing grows, it doubles, and the magnitude fills its 53 bits. -/
theorem le_of_spacing_lt
    {n d n' d' : Nat}
    (h : spacing n d < spacing n' d') :
    2 * spacing n d ≤ spacing n' d' ∧ 2 ^ 52 * spacing n' d' ≤ n' / d' := by
  simp only [spacing, Nat.pow_eq] at h ⊢
  have hexponent : (n / d).log2 - 52 < (n' / d').log2 - 52 :=
    (Nat.pow_lt_pow_iff_right (by decide)).mp h
  constructor
  · rw [← Nat.pow_succ']
    exact Nat.pow_le_pow_right (by decide) hexponent
  · rw [← Nat.pow_add]
    refine (Nat.le_log2 ?_).mp (by omega)
    intro hzero
    rw [hzero, Nat.log2_zero] at hexponent
    omega

/-- **Rounding is monotone**: a larger quotient never rounds to fewer units.
Between two binades lies a power of two, which bounds both roundings. -/
theorem nearestUnits_mono
    {n d n' d' : Nat}
    (hd : 0 < d)
    (hd' : 0 < d')
    (h : n * d' ≤ n' * d) :
    nearestUnits n d ≤ nearestUnits n' d' := by
  have hquotients := div_le_div_of_mul_le hd hd' h
  have hspacing' := spacing_pos n' d'
  rcases Nat.lt_or_eq_of_le (spacing_mono hquotients) with hlt | heq
  · obtain ⟨hdouble, hfull⟩ := le_of_spacing_lt hlt
    have hbelow : 2 ^ 52 ≤ roundDiv n' (d' * spacing n' d') := by
      refine Nat.le_trans ?_ (le_roundDiv _ _)
      rw [← Nat.div_div_eq_div_mul]
      exact (Nat.le_div_iff_mul_le hspacing').mpr hfull
    calc nearestUnits n d
        ≤ 2 ^ 53 * spacing n d :=
          Nat.mul_le_mul_right _ (roundDiv_spacing_le n d)
      _ = 2 ^ 52 * (2 * spacing n d) := by ring
      _ ≤ 2 ^ 52 * spacing n' d' := Nat.mul_le_mul_left _ hdouble
      _ ≤ nearestUnits n' d' := Nat.mul_le_mul_right _ hbelow
  · unfold nearestUnits
    rw [heq]
    refine Nat.mul_le_mul_right _
      (roundDiv_mono ?_ (Nat.mul_pos hd' hspacing') ?_)
    · exact Nat.mul_pos hd hspacing'
    · calc n * (d' * spacing n' d') = n * d' * spacing n' d' := by ring
        _ ≤ n' * d * spacing n' d' := Nat.mul_le_mul_right _ h
        _ = n' * (d * spacing n' d') := by ring

/-! ## Places -/

/-- The place of the double nearest to `m / d`. -/
def quotientPlace (m : Int) (d : Nat) : Int :=
  signed (m < 0) (min (nearestUnits (m.natAbs * Nat.pow 2 1074) d) limit)

/-- The place of the double nearest to an exact number. -/
def place (q : Rat) : Int := quotientPlace q.num q.den

theorem signed_natAbs_le
    {m m' : Int}
    {u u' : Nat}
    (hneg : m < 0 → m' < 0 → u' ≤ u)
    (hpos : 0 ≤ m → 0 ≤ m' → u ≤ u')
    (h : m < 0 ∨ 0 ≤ m') :
    signed (m < 0) u ≤ signed (m' < 0) u' := by
  unfold signed
  rcases lt_or_ge m 0 with hm | hm <;> rcases lt_or_ge m' 0 with hm' | hm'
  · have := hneg hm hm'
    simp only [hm, hm', decide_true, if_true]
    omega
  · simp only [hm, Int.not_lt.mpr hm', decide_true, decide_false, if_true,
      Bool.false_eq_true, if_false]
    omega
  · omega
  · have := hpos hm hm'
    simp only [Int.not_lt.mpr hm, Int.not_lt.mpr hm', decide_false,
      Bool.false_eq_true, if_false]
    omega

theorem quotientPlace_mono
    {m m' : Int}
    {d d' : Nat}
    (hd : 0 < d)
    (hd' : 0 < d')
    (h : m * d' ≤ m' * d) :
    quotientPlace m d ≤ quotientPlace m' d' := by
  have hrounded :
      ∀ {n n' e e' : Nat}, 0 < e → 0 < e' → n * e' ≤ n' * e →
        min (nearestUnits (n * Nat.pow 2 1074) e) limit ≤
          min (nearestUnits (n' * Nat.pow 2 1074) e') limit := by
    intro n n' e e' he he' hle
    refine min_le_min_right _ (nearestUnits_mono he he' ?_)
    calc n * Nat.pow 2 1074 * e' = n * e' * Nat.pow 2 1074 := by ring
      _ ≤ n' * e * Nat.pow 2 1074 := Nat.mul_le_mul_right _ hle
      _ = n' * Nat.pow 2 1074 * e := by ring
  refine signed_natAbs_le (fun hm hm' => hrounded hd' hd ?_)
    (fun hm hm' => hrounded hd hd' ?_) ?_
  · zify
    rw [abs_of_neg hm, abs_of_neg hm']
    linarith
  · zify
    rw [abs_of_nonneg hm, abs_of_nonneg hm']
    exact h
  · rcases lt_or_ge m 0 with hm | hm
    · exact Or.inl hm
    · refine Or.inr (Int.le_of_lt_add_one ?_)
      by_contra hlt
      nlinarith

/-- **The place of an exact number grows with the number.** -/
theorem place_mono
    {x y : Rat}
    (h : x ≤ y) :
    place x ≤ place y := by
  exact quotientPlace_mono x.pos y.pos ((Rat.le_iff x y).mp h)

/-- The place does not depend on how the quotient is written. -/
theorem place_mkRat
    (m : Int)
    {d : Nat}
    (hd : 0 < d) :
    place (mkRat m d) = quotientPlace m d := by
  have hsame : (mkRat m d).num * d = m * (mkRat m d).den := by
    rw [← Rat.mkRat_eq_iff (mkRat m d).den_nz hd.ne', Rat.mkRat_self]
  exact le_antisymm (quotientPlace_mono (mkRat m d).pos hd hsame.le)
    (quotientPlace_mono hd (mkRat m d).pos hsame.ge)

theorem key_ofUnits
    (negative : Bool)
    (n d : Nat) :
    (ofUnits negative n d).key =
      some (signed negative (min (nearestUnits n d) limit)) := by
  unfold ofUnits
  split
  · next h => rw [key, Nat.min_eq_left h.le]
  · next h => rw [key, Nat.min_eq_right (Nat.not_lt.mp h)]

/-- The sign of a signed number is the given one, except that zero has none. -/
theorem signed_signed
    (negative : Bool)
    {n u : Nat}
    (hzero : n = 0 → u = 0) :
    signed (signed negative n < 0) u = signed negative u := by
  cases negative with
  | false =>
      have hn : ¬ (n : Int) < 0 := Int.not_lt.mpr (Int.natCast_nonneg n)
      simp only [signed, Bool.false_eq_true, if_false, hn, decide_false]
  | true =>
      rcases Nat.eq_zero_or_pos n with hn | hn
      · simp only [signed, hzero hn, Int.natCast_zero, Int.neg_zero, ite_self]
      · have hneg : -(n : Int) < 0 := by omega
        simp only [signed, if_true, hneg, decide_true]

theorem natAbs_signed
    (negative : Bool)
    (n : Nat) :
    (signed negative n).natAbs = n := by
  cases negative with
  | false => exact Int.natAbs_natCast n
  | true => exact (Int.natAbs_neg _).trans (Int.natAbs_natCast n)

theorem signed_mul
    (negative : Bool)
    (n k : Nat) :
    signed negative (n * k) = signed negative n * k := by
  cases negative <;> simp [signed]

theorem signed_natAbs
    (n : Int) :
    signed (n < 0) n.natAbs = n := by
  unfold signed
  split
  · next h =>
      exact Int.neg_eq_comm.mp
        (Int.ofNat_natAbs_of_nonpos (of_decide_eq_true h).le).symm
  · next h => exact Int.natAbs_of_nonneg (not_lt.mp (mt decide_eq_true h))

/-- The double nearest to a quotient has the place of the quotient. -/
theorem key_ofRatio
    (negative : Bool)
    (n : Nat)
    {d : Nat}
    (hd : 0 < d) :
    (ofRatio negative n d).key =
      some (place (mkRat (signed negative n) d)) := by
  rw [place_mkRat _ hd, ofRatio, key_ofUnits, quotientPlace, natAbs_signed,
    signed_signed]
  rintro rfl
  generalize Nat.pow 2 1074 = unit
  rw [Nat.zero_mul, nearestUnits_zero hd, Nat.zero_min]

/-- A magnitude that a double holds is its own place, counted in units. -/
theorem place_units
    (negative : Bool)
    {units : Nat}
    (fits : Representable units) :
    place (mkRat (signed negative units) (Nat.pow 2 1074)) =
      signed negative units := by
  have hunit := unit_pos
  generalize hscale : Nat.pow 2 1074 = unit at hunit ⊢
  rw [place_mkRat _ hunit]
  unfold quotientPlace
  generalize Nat.pow 2 1074 = scale at hscale ⊢
  rw [hscale, natAbs_signed, nearestUnits_mul hunit fits.2,
    Nat.min_eq_left fits.1.le, signed_signed _ id]

theorem toRat?_finite
    {negative : Bool}
    {units : Nat}
    {fits : Representable units} :
    (finite negative units fits).toRat? =
      some (mkRat (signed negative units) (Nat.pow 2 1074)) := by
  unfold toRat? ratio?
  generalize Nat.pow 2 1074 = unit
  rfl

/-- A double that stands for an exact number has the place of that number, and
its place determines the number. -/
theorem key_of_toRat?
    {x : Double}
    {q : Rat}
    (h : x.toRat? = some q) :
    x.key = some (place q) ∧ q = mkRat (place q) (Nat.pow 2 1074) := by
  cases x with
  | nan => cases h
  | infinite negative => cases h
  | finite negative units fits =>
      rw [toRat?_finite] at h
      have hplace := place_units negative fits
      rw [Option.some.inj h] at hplace
      rw [hplace]
      exact ⟨rfl, (Option.some.inj h).symm⟩

/-- Places tell doubles apart: between numbers that doubles hold exactly, they
keep the order. -/
theorem place_lt_iff
    {x y : Rat}
    (hx : ∃ d : Double, d.toRat? = some x)
    (hy : ∃ d : Double, d.toRat? = some y) :
    place x < place y ↔ x < y := by
  obtain ⟨d, hd⟩ := hx
  obtain ⟨e, he⟩ := hy
  constructor
  · intro h
    by_contra hle
    exact absurd (place_mono (not_lt.mp hle)) (not_le.mpr h)
  · intro h
    refine lt_of_le_of_ne (place_mono h.le) fun hsame => h.ne ?_
    rw [(key_of_toRat? hd).2, (key_of_toRat? he).2, hsame]

/-! ## Decimal numbers -/

/-- From the limit on, every quotient rounds to at least the limit. -/
theorem limit_le_nearestUnits
    {n d : Nat}
    (hd : 0 < d)
    (h : limit * d ≤ n) :
    limit ≤ nearestUnits n d := by
  unfold limit at h ⊢
  generalize 2098 = s at h ⊢
  have hpower : nearestUnits (Nat.pow 2 s * 1) 1 = Nat.pow 2 s :=
    nearestUnits_mul Nat.one_pos
      ⟨1, s, Nat.one_lt_two_pow (by decide), (Nat.one_mul _).symm⟩
  rw [← hpower]
  refine nearestUnits_mono Nat.one_pos hd ?_
  rw [Nat.mul_one, Nat.mul_one]
  exact h

/-- Less than half a unit rounds to nothing. -/
theorem nearestUnits_eq_zero
    {n d : Nat}
    (h : 2 * n < d) :
    nearestUnits n d = 0 := by
  have hquotient : n / d = 0 := Nat.div_eq_of_lt (by omega)
  have hspacing : spacing n d = 1 := by
    rw [spacing, hquotient]
    rfl
  rw [nearestUnits, hspacing, Nat.mul_one, Nat.mul_one]
  unfold roundDiv
  rw [Nat.mod_eq_of_lt (by omega), if_pos h, hquotient]

theorem lt_pow_digitCount
    (n : Nat) :
    n < 10 ^ digitCount n := by
  exact (Nat.length_toDigits_le_iff (by decide) Nat.length_toDigits_pos).mp
    (Nat.le_refl _)

theorem pow_le_of_digitCount
    {n k : Nat}
    (hn : n ≠ 0)
    (hk : k < digitCount n) :
    10 ^ k ≤ n := by
  rcases Nat.eq_zero_or_pos k with rfl | hpos
  · exact Nat.one_le_iff_ne_zero.mpr hn
  · by_contra hlt
    have hfew :=
      (Nat.length_toDigits_le_iff (by decide) hpos).mpr (Nat.not_le.mp hlt)
    exact Nat.not_le.mpr hk hfew

theorem ten_pow_pos
    (k : Nat) :
    0 < 10 ^ k := by
  exact Nat.pow_pos (by decide)

theorem ten_pow_mul_le
    {a b c d n : Nat}
    (hn : 10 ^ c ≤ n)
    (h : a + b ≤ c + d) :
    10 ^ a * 10 ^ b ≤ n * 10 ^ d := by
  calc 10 ^ a * 10 ^ b = 10 ^ (a + b) := (Nat.pow_add ..).symm
    _ ≤ 10 ^ (c + d) := Nat.pow_le_pow_right (by decide) h
    _ = 10 ^ c * 10 ^ d := Nat.pow_add ..
    _ ≤ n * 10 ^ d := Nat.mul_le_mul_right _ hn

theorem mul_ten_pow_lt
    {a b c n : Nat}
    (hn : n < 10 ^ c)
    (h : c + a ≤ b) :
    n * 10 ^ a < 10 ^ b := by
  calc n * 10 ^ a < 10 ^ c * 10 ^ a :=
        Nat.mul_lt_mul_of_pos_right hn (ten_pow_pos a)
    _ = 10 ^ (c + a) := (Nat.pow_add ..).symm
    _ ≤ 10 ^ b := Nat.pow_le_pow_right (by decide) h

theorem two_pow_le_ten_pow
    {j k : Nat}
    (h : j ≤ 3 * k) :
    2 ^ j ≤ 10 ^ k := by
  calc 2 ^ j ≤ 2 ^ (3 * k) := Nat.pow_le_pow_right (by decide) h
    _ = 8 ^ k := by rw [Nat.pow_mul]
    _ ≤ 10 ^ k := Nat.pow_le_pow_left (by decide) k

/-- A number of at least `10 ^ 400` rounds to an infinity. -/
theorem limit_le_of_huge
    {n d : Nat}
    (hd : 0 < d)
    (h : 10 ^ 400 * d ≤ n) :
    limit ≤ nearestUnits (n * Nat.pow 2 1074) d := by
  have hlarge : limit ≤ 10 ^ 400 * Nat.pow 2 1074 := by
    obtain ⟨extra, hextra, hsum⟩ : ∃ extra ≤ 3 * 400, 2098 = extra + 1074 :=
      ⟨1024, by decide, rfl⟩
    unfold limit
    generalize 2098 = full at hsum ⊢
    generalize 1074 = unit at hsum ⊢
    rw [hsum, Nat.pow_eq, Nat.pow_eq, Nat.pow_add]
    exact Nat.mul_le_mul_right _ (two_pow_le_ten_pow hextra)
  generalize 10 ^ 400 = bound at h hlarge
  refine limit_le_nearestUnits hd ?_
  calc limit * d ≤ bound * Nat.pow 2 1074 * d := Nat.mul_le_mul_right d hlarge
    _ = bound * d * Nat.pow 2 1074 := by ring
    _ ≤ n * Nat.pow 2 1074 := Nat.mul_le_mul_right _ h

theorem key_of_huge
    (negative : Bool)
    {n d : Nat}
    (hd : 0 < d)
    (h : 10 ^ 400 * d ≤ n) :
    (infinite negative).key = some (place (mkRat (signed negative n) d)) := by
  have hn : n ≠ 0 := by
    rintro rfl
    exact absurd (Nat.mul_pos (ten_pow_pos 400) hd) (Nat.not_lt.mpr h)
  rw [place_mkRat _ hd, quotientPlace, natAbs_signed,
    Nat.min_eq_right (limit_le_of_huge hd h),
    signed_signed negative fun hzero => absurd hzero hn, key]

/-- A number of less than `10 ^ -400` has the place of zero. -/
theorem place_of_tiny
    (negative : Bool)
    {n d : Nat}
    (h : n * 10 ^ 400 < d) :
    place (mkRat (signed negative n) d) = 0 := by
  have hrounded : nearestUnits (n * Nat.pow 2 1074) d = 0 := by
    refine nearestUnits_eq_zero (Nat.lt_of_le_of_lt ?_ h)
    have hsmall : 1074 + 1 ≤ 3 * 400 := by decide
    generalize 1074 = unit at hsmall ⊢
    calc 2 * (n * Nat.pow 2 unit) = n * 2 ^ (unit + 1) := by
          rw [Nat.pow_eq]
          ring
      _ ≤ n * 10 ^ 400 := Nat.mul_le_mul_left n (two_pow_le_ten_pow hsmall)
  rw [place_mkRat _ (Nat.lt_of_le_of_lt (Nat.zero_le _) h)]
  unfold quotientPlace
  rw [natAbs_signed, hrounded, Nat.zero_min]
  generalize decide (signed negative n < 0) = below
  cases below <;> rfl

theorem key_of_tiny
    (negative : Bool)
    {n d : Nat}
    (h : n * 10 ^ 400 < d) :
    (ofRatio negative 0 1).key =
      some (place (mkRat (signed negative n) d)) := by
  have hzero : 0 * 10 ^ 400 < 1 := (Nat.zero_mul _).trans_lt Nat.one_pos
  rw [key_ofRatio negative 0 Nat.one_pos, place_of_tiny negative hzero,
    place_of_tiny negative h]

/-- **The double nearest to a decimal number has the place of the number**, also
where the powers of ten are not formed. -/
theorem key_ofDecimal
    (negative : Bool)
    (coefficient : Nat)
    (exponent : Int) :
    (ofDecimal negative coefficient exponent).key =
      some (place (mkRat (signed negative (coefficient * 10 ^ exponent.toNat))
        (10 ^ (-exponent).toNat))) := by
  have hden := ten_pow_pos (-exponent).toNat
  unfold ofDecimal
  split
  · next hzero =>
      refine key_of_tiny negative ?_
      rw [hzero, Nat.zero_mul, Nat.zero_mul]
      exact hden
  · next hcoefficient =>
      split
      · next hlarge =>
          have hdigits : 0 < digitCount coefficient := Nat.length_toDigits_pos
          have hpow :=
            pow_le_of_digitCount hcoefficient (Nat.sub_lt hdigits Nat.one_pos)
          exact key_of_huge negative hden (ten_pow_mul_le hpow (by omega))
      · split
        · next hsmall =>
            have hexponent : exponent.toNat = 0 := by omega
            rw [hexponent, Nat.pow_zero, Nat.mul_one]
            exact key_of_tiny negative
              (mul_ten_pow_lt (lt_pow_digitCount coefficient) (by omega))
        · split
          · next hnegative =>
              have hexponent : exponent.toNat = 0 := by omega
              have habs : exponent.natAbs = (-exponent).toNat := by omega
              rw [habs, Nat.pow_eq, key_ofRatio _ _ hden, hexponent,
                Nat.pow_zero, Nat.mul_one]
          · next hnonnegative =>
              have hexponent : (-exponent).toNat = 0 := by omega
              have habs : exponent.natAbs = exponent.toNat := by omega
              rw [habs, Nat.pow_eq, key_ofRatio _ _ Nat.one_pos, hexponent,
                Nat.pow_zero]

end Double
end RecordFilter
