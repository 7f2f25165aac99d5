import RecordFilter.Memory.Operator
import RecordFilter.Proofs.Outcome
import Mathlib.Data.List.Infix

/-!
# Wider searches

A search for a text in the text of a field can be made wider in two ways: it may
ignore case, and it may ask for a part of the text only.  This module shows that
neither loses a match.

**Folding.**  Folding turns one character into several, so a match after
folding does not have to start where a character of the field starts.  What
matters is that folding goes character by character: it keeps the block around
which a text splits.

**Main result.**
* `Memory.search_widens`: whatever is found is found without regard to case,
  too, and with either operator it is found by every part of the input.
-/

namespace RecordFilter

/-! ## Blocks of a text -/

namespace Text

variable {pattern part text : List Char}

theorem occursIn_iff_infix :
    occursIn pattern text = true ↔ pattern <:+: text := by
  rw [occursIn_iff]
  constructor
  · rintro ⟨before, after, rfl⟩
    exact ⟨before, after, by simp⟩
  · rintro ⟨before, after, rfl⟩
    exact ⟨before, after, by simp⟩

/-- A block of a text stays a block when both are folded. -/
theorem fold_infix
    (h : pattern <:+: text) :
    fold pattern <:+: fold text := by
  obtain ⟨before, after, rfl⟩ := h
  exact ⟨fold before, fold after, by simp⟩

end Text

/-! ## Searches -/

namespace Memory

/-- Two tests with an answer, the second of which accepts whatever the first
one accepts. -/
def Widens (narrow wide : Except Failure Bool) : Prop :=
  ∃ b c, narrow = .ok b ∧ wide = .ok c ∧ (b = true → c = true)

variable {field input part : Value} {text pattern piece : String}

/-- A search among two texts asks whether one is a block of the other. -/
theorem textContains_eq
    (change : List Char → List Char)
    (hfield : field.plainText = .ok text)
    (hinput : input.plainText = .ok pattern) :
    textContains change field input =
      .ok (Text.occursIn (change pattern.toList) (change text.toList)) := by
  rw [textContains, hinput, Outcome.ok_bind, hfield]
  rfl

/-- A change that keeps blocks gives a wider search. -/
theorem widens_change
    {change : List Char → List Char}
    (hchange : ∀ {p t : List Char}, p <:+: t → change p <:+: change t)
    (hfield : field.plainText = .ok text)
    (hinput : input.plainText = .ok pattern) :
    Widens (textContains id field input) (textContains change field input) := by
  refine ⟨_, _, textContains_eq id hfield hinput,
    textContains_eq change hfield hinput, ?_⟩
  intro hfound
  rw [Text.occursIn_iff_infix] at hfound ⊢
  exact hchange hfound

/-- A part of the input gives a wider search, after a change that
keeps blocks. -/
theorem widens_part
    {change : List Char → List Char}
    (hchange : ∀ {p t : List Char}, p <:+: t → change p <:+: change t)
    (hfield : field.plainText = .ok text)
    (hinput : input.plainText = .ok pattern)
    (hpart : part.plainText = .ok piece)
    (hpiece : piece.toList <:+: pattern.toList) :
    Widens (textContains change field input)
      (textContains change field part) := by
  refine ⟨_, _, textContains_eq change hfield hinput,
    textContains_eq change hfield hpart, ?_⟩
  intro hfound
  rw [Text.occursIn_iff_infix] at hfound ⊢
  have hshorter : change piece.toList <:+: change pattern.toList :=
    hchange hpiece
  exact hshorter.trans hfound

/-- **Neither ignoring case nor shortening the input loses a match.**  For
values that have a text, both searches have an answer.  What `contains` accepts
is accepted by `icontains`; and what either of them accepts for an input, it
accepts for another one whose text is a block of the first. -/
theorem search_widens
    (hfield : field.plainText = .ok text)
    (hinput : input.plainText = .ok pattern)
    (hpart : part.plainText = .ok piece) :
    Widens (evaluate .contains field input) (evaluate .icontains field input) ∧
      (Text.occursIn piece.toList pattern.toList = true →
        Widens (evaluate .contains field input)
          (evaluate .contains field part) ∧
          Widens (evaluate .icontains field input)
            (evaluate .icontains field part)) := by
  refine ⟨widens_change Text.fold_infix hfield hinput, fun hoccurs => ?_⟩
  have hpiece := Text.occursIn_iff_infix.mp hoccurs
  exact ⟨widens_part id hfield hinput hpart hpiece,
    widens_part Text.fold_infix hfield hinput hpart hpiece⟩

/-- The folded text is longer, and half of the folded letter `ß` is enough
for a match. -/
theorem search_widens_folded :
    (Value.text "Große Straße").plainText = .ok "Große Straße" ∧
      Text.occursIn "S".toList "SSE S".toList = true ∧
      evaluate .icontains (.text "Große Straße") (.text "SSE S") = .ok true ∧
      evaluate .icontains (.text "Große Straße") (.text "S") = .ok true ∧
      evaluate .contains (.text "Große Straße") (.text "SSE S") =
        .ok false := by
  have hfield : (Value.text "Große Straße").plainText = .ok "Große Straße" :=
    rfl
  have hoccurs : Text.occursIn "S".toList "SSE S".toList = true := by
    decide
  have hfound :
      evaluate .icontains (.text "Große Straße") (.text "SSE S") =
        .ok true := by
    rw [evaluate, textContains_eq Text.fold hfield rfl]
    exact congrArg Except.ok (by decide +kernel)
  have hmissed :
      evaluate .contains (.text "Große Straße") (.text "SSE S") =
        .ok false := by
    rw [evaluate, textContains_eq id hfield rfl]
    exact congrArg Except.ok (by decide +kernel)
  have hwidens :=
    @search_widens (.text "Große Straße") (.text "SSE S") (.text "S") _ "SSE S"
      "S" hfield rfl rfl
  obtain ⟨-, hshorter⟩ := hwidens
  obtain ⟨-, b, c, hlong, hshort, himplies⟩ := hshorter hoccurs
  rw [hfound] at hlong
  cases hlong
  rw [himplies rfl] at hshort
  exact ⟨hfield, hoccurs, hfound, hshort, hmissed⟩

end Memory
end RecordFilter
