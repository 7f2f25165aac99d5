import RecordFilter.Proofs.Ordering
import RecordFilter.Proofs.Rounding

/-!
# Orderings of dates and moments

This module compares the orderings of dates and moments, which go by timestamps,
with the order of the instants in time.

**Precision.**  The calendar spans far fewer than `2 ^ 53` seconds, so
the timestamp of a moment that counts whole seconds is exact, whichever
way it is computed.

**Outermost days.**  A moment without an offset has no timestamp if the day
before it, or after it when `fold` is set, lies outside of the calendar.

**Main result.**
* `orderings_chronological`: dates and moments of whole seconds are ordered
  as their instants, except that moments without a timestamp are not
  ordered at all.
-/

namespace RecordFilter

/-! ## Exact seconds -/

namespace Double

/-- A whole number of at most 53 bits is held exactly. -/
theorem exists_toRat?_of_lt
    {n : Int}
    (h : n.natAbs < Nat.pow 2 53) :
    ∃ d : Double, d.toRat? = some (n : Rat) := by
  have hlimit : n.natAbs * Nat.pow 2 1074 < limit := by
    obtain ⟨extra, hextra, hsum⟩ : ∃ extra ≥ 53, 2098 = extra + 1074 :=
      ⟨1024, by decide, rfl⟩
    unfold limit
    generalize 2098 = full at hsum ⊢
    generalize 1074 = unit at hsum ⊢
    rw [hsum, Nat.pow_eq, Nat.pow_eq, Nat.pow_add]
    refine Nat.mul_lt_mul_of_pos_right (Nat.lt_of_lt_of_le h ?_)
      (Nat.two_pow_pos unit)
    exact Nat.pow_le_pow_right (by decide) hextra
  have fits : Representable (n.natAbs * Nat.pow 2 1074) :=
    ⟨hlimit, n.natAbs, 1074, h, rfl⟩
  refine ⟨.finite (n < 0) _ fits, ?_⟩
  have hunit := unit_pos
  rw [toRat?_finite, signed_mul, signed_natAbs]
  generalize Nat.pow 2 1074 = unit at hunit ⊢
  have hcancel := Rat.mkRat_mul_right (n := n) (d := 1) hunit.ne'
  rw [Nat.one_mul, Rat.mkRat_one] at hcancel
  rw [hcancel]

/-- Places keep the order of whole numbers of at most 53 bits. -/
theorem place_intCast_lt_iff
    {m n : Int}
    (hm : m.natAbs < Nat.pow 2 53)
    (hn : n.natAbs < Nat.pow 2 53) :
    place m < place n ↔ m < n := by
  rw [place_lt_iff (exists_toRat?_of_lt hm) (exists_toRat?_of_lt hn),
    Rat.intCast_lt_intCast]

theorem nearestUnits_mul_right
    (n : Nat)
    {d : Nat}
    (hd : 0 < d) :
    nearestUnits (n * d) d = nearestUnits n 1 := by
  have hsame : n * d * 1 = n * d := Nat.mul_one _
  exact Nat.le_antisymm (nearestUnits_mono hd Nat.one_pos hsame.le)
    (nearestUnits_mono Nat.one_pos hd hsame.ge)

/-- The rounded sum of a whole number and a double has the place of
the exact sum. -/
theorem key_addInt
    (n : Int)
    {x : Double}
    {q : Rat}
    (h : x.toRat? = some q) :
    (addInt n x).key = some (place (n + q)) := by
  cases x with
  | nan => cases h
  | infinite negative => cases h
  | finite negative units fits =>
      have hunit := unit_pos
      rw [toRat?_finite, Option.some.injEq] at h
      have hsum :
          n + q = mkRat (n * Nat.pow 2 1074 + signed negative units)
            (Nat.pow 2 1074) := by
        have hscale : ((Nat.pow 2 1074 : Nat) : Rat) ≠ 0 :=
          Nat.cast_ne_zero.mpr hunit.ne'
        rw [← h]
        generalize Nat.pow 2 1074 = unit at hscale ⊢
        rw [Rat.mkRat_eq_div, Rat.mkRat_eq_div]
        push_cast
        rw [add_div, mul_div_cancel_right₀ _ hscale]
      rw [hsum, place_mkRat _ hunit]
      simp only [addInt, key_ofUnits, quotientPlace,
        nearestUnits_mul_right _ hunit]

end Double

/-! ## Timestamps of whole seconds -/

/-- A date or a moment as a moment. -/
def Value.moment? : Value → Option Moment
  | .date d => some (.ofDate d)
  | .moment m => some m
  | _ => Option.none

namespace Moment

/-- The moment counts whole seconds, and so does its offset, which is shorter
than a day. -/
structure IsWhole (m : Moment) : Prop where
  clock : m.clock.microsecond = 0
  offset : ∀ offset ∈ m.clock.offset,
    (1000000 : Int) ∣ offset.micros ∧ offset.micros.natAbs < ClockTime.count

/-- The moment has no offset, and it is on the first day of the calendar, or
with `fold` set on the last. -/
def IsOutermost (m : Moment) : Prop :=
  m.clock.offset = none ∧
    m.date.ordinal = if m.clock.fold then Date.count - 1 else 0

instance (m : Moment) : Decidable m.IsOutermost :=
  inferInstanceAs (Decidable (_ ∧ _))

theorem isWhole_ofDate
    (d : Date) :
    (ofDate d).IsWhole := by
  constructor
  · rfl
  · intro offset h
    cases h

theorem hasTimestamp_eq_false_iff
    (m : Moment) :
    m.hasTimestamp = false ↔ m.IsOutermost := by
  have hday := m.date.inRange
  unfold hasTimestamp IsOutermost hasReading
  rw [Bool.or_eq_false_iff, Option.isSome_eq_false_iff,
    Option.isNone_iff_eq_none]
  refine and_congr_right fun _ => ?_
  unfold Date.count at hday ⊢
  split <;> simp only [decide_eq_false_iff_not] <;> omega

/-- The local reading of a whole moment is a number of seconds. -/
theorem dvd_localMicros
    {m : Moment}
    (h : m.IsWhole) :
    (1000000 : Int) ∣ m.localMicros := by
  have hclock := h.clock
  unfold ClockTime.microsecond at hclock
  unfold localMicros Duration.microsPerDay epochOrdinal
  omega

/-- The instant of a whole moment is a number of seconds of fewer
than 53 bits. -/
theorem exists_seconds
    {m : Moment}
    (h : m.IsWhole) :
    ∃ s : Int, m.instant = s * 1000000 ∧ s.natAbs < Nat.pow 2 53 := by
  obtain ⟨s, hs⟩ := dvd_localMicros h
  obtain ⟨t, ht, hday⟩ :
      ∃ t : Int,
        (m.clock.offset.map Duration.micros).getD 0 = t * 1000000 ∧
        t.natAbs < 86400 := by
    cases hoffset : m.clock.offset with
    | none => exact ⟨0, rfl, by decide⟩
    | some offset =>
        obtain ⟨⟨t, ht⟩, hday⟩ := h.offset offset hoffset
        unfold ClockTime.count at hday
        refine ⟨t, ?_, by omega⟩
        rw [Option.map_some, Option.getD_some, ht, Int.mul_comm]
  have hbound : Nat.pow 2 53 = 9007199254740992 := by decide
  have hdate := m.date.inRange
  have hclock := m.clock.inRange
  refine ⟨s - t, ?_, ?_⟩
  · rw [instant, ht, hs]
    omega
  · unfold localMicros Duration.microsPerDay epochOrdinal at hs
    unfold Date.count at hdate
    unfold ClockTime.count at hclock
    omega

/-- The timestamp of a whole moment has the place of its seconds: with an offset
an exact quotient is rounded, without one a fraction of zero is added. -/
theorem key_timestamp
    {m : Moment}
    {s : Int}
    (hwhole : m.IsWhole)
    (htimestamp : m.hasTimestamp = true)
    (hs : m.instant = s * 1000000) :
    (Value.momentMeasure m).key = some (Double.place s) := by
  unfold Value.momentMeasure
  cases hoffset : m.clock.offset with
  | some offset =>
      have hquotient : mkRat (s * 1000000) 1000000 = s := by
        have hcancel :=
          Rat.mkRat_mul_right (n := s) (d := 1) (a := 1000000) (by decide)
        rwa [Nat.one_mul, Rat.mkRat_one] at hcancel
      rw [timestamp?_of_offset hoffset, Option.getD_some, Duration.seconds,
        Double.key_ofRatio _ _ (by decide), Double.signed_natAbs, hs, hquotient]
  | none =>
      have hreading : m.hasReading = true := by
        simpa [hasTimestamp, hoffset] using htimestamp
      have hseconds : m.localMicros.fdiv 1000000 = s := by
        rw [instant, hoffset, Option.map_none, Option.getD_none,
          Int.sub_zero] at hs
        rw [hs, Int.mul_fdiv_cancel _ (by decide)]
      have hzero :
          (Double.ofRatio false 0 1000000).toRat? = some 0 := by decide +kernel
      rw [timestamp?_of_hasReading hoffset hreading, Option.getD_some,
        hwhole.clock, hseconds, Double.key_addInt s hzero, Rat.add_zero]

end Moment

theorem Value.measure_of_moment?
    {v : Value}
    {m : Moment}
    (h : v.moment? = some m) :
    v.measure = momentMeasure m := by
  cases v with
  | date d => rw [← Option.some.inj h, measure]
  | moment m' => rw [← Option.some.inj h, measure]
  | _ => cases h

/-! ## The order of instants -/

namespace Memory

/-- **Dates and moments are ordered as their instants**, if both have a
timestamp; otherwise no ordering holds. -/
theorem orderings_chronological
    {a b : Value}
    {m n : Moment}
    (ha : a.moment? = some m)
    (hb : b.moment? = some n)
    (hm : m.IsWhole)
    (hn : n.IsWhole) :
    (¬ m.IsOutermost → ¬ n.IsOutermost → OrdersAs a b m.instant n.instant) ∧
      (m.IsOutermost ∨ n.IsOutermost → Unordered a b) := by
  constructor
  · intro hinner hinner'
    rw [← Moment.hasTimestamp_eq_false_iff, Bool.not_eq_false] at hinner hinner'
    obtain ⟨s, hs, hfew⟩ := Moment.exists_seconds hm
    obtain ⟨t, ht, hfew'⟩ := Moment.exists_seconds hn
    have hkey := Moment.key_timestamp hm hinner hs
    have hkey' := Moment.key_timestamp hn hinner' ht
    rw [← Value.measure_of_moment? ha] at hkey
    rw [← Value.measure_of_moment? hb] at hkey'
    refine (ordersAs_of_key hkey hkey').of_iff ?_ ?_
    · rw [Double.place_intCast_lt_iff hfew hfew', hs, ht]
      omega
    · rw [Double.place_intCast_lt_iff hfew' hfew, hs, ht]
      omega
  · intro houtermost
    refine unordered_of_isNaN ?_
    rw [Value.measure_of_moment? ha, Value.measure_of_moment? hb,
      Value.isNaN_momentMeasure, Value.isNaN_momentMeasure, Bool.not_eq_true',
      Bool.not_eq_true',
      Moment.hasTimestamp_eq_false_iff, Moment.hasTimestamp_eq_false_iff]
    exact houtermost

/-- Chronological ordering fails on the first day, which is not even at or
after itself. -/
theorem first_day_unordered :
    ¬ ∀ (a b : Value) (m n : Moment), a.moment? = some m → b.moment? = some n →
      m.IsWhole → n.IsWhole → OrdersAs a b m.instant n.instant := by
  intro h
  let first : Date := ⟨0, by decide⟩
  have hwhole := Moment.isWhole_ofDate first
  have hordered := (h (.date first) (.date first) _ _ rfl rfl hwhole hwhole).gte
  have hunordered : Unordered (.date first) (.date first) :=
    unordered_of_isNaN (Or.inl rfl)
  rw [hunordered.gte] at hordered
  cases hordered

/-- A midnight one hour east of universal time comes before the midnight of the
same date; the first day of the calendar does not come before it. -/
theorem orderings_chronological_abroad :
    let day : Date := ⟨738000, by decide⟩
    let first : Date := ⟨0, by decide⟩
    let abroad : Moment := ⟨day, 0, by decide, false, some ⟨3600000000⟩⟩
    evaluate .gt (.date day) (.moment abroad) = .ok true ∧
      evaluate .lt (.date first) (.moment abroad) = .ok false := by
  intro day first abroad
  have habroad : abroad.IsWhole := by
    refine ⟨rfl, fun offset h => ?_⟩
    obtain rfl := Option.some.inj h
    exact ⟨⟨3600, rfl⟩, by decide⟩
  have hdate : ∀ d, (Value.date d).moment? = some (.ofDate d) := fun d => rfl
  have hmoment : (Value.moment abroad).moment? = some abroad := by rfl
  have hinner :=
    orderings_chronological (hdate day) hmoment
      (Moment.isWhole_ofDate day) habroad
  have houter :=
    orderings_chronological (hdate first) hmoment
      (Moment.isWhole_ofDate first) habroad
  constructor
  · exact (hinner.1 (by decide) (by decide)).gt.trans
      (congrArg Except.ok (by decide))
  · exact (houter.2 (Or.inl (by decide))).lt

end Memory
end RecordFilter
