/-!
# Searching a text

`Text.occursIn pattern text` tells whether the pattern is a block of consecutive
characters of the text.
-/

namespace RecordFilter
namespace Text

/-- Is the pattern a block of consecutive characters of the text? -/
def occursIn (pattern : List Char) : List Char → Bool
  | [] => pattern.isEmpty
  | c :: rest => pattern.isPrefixOf (c :: rest) || occursIn pattern rest

/-- The pattern occurs exactly when the text splits around it. -/
theorem occursIn_iff
    {pattern text : List Char} :
    occursIn pattern text = true ↔
      ∃ before after, text = before ++ (pattern ++ after) := by
  induction text with
  | nil =>
      rw [occursIn, List.isEmpty_iff]
      constructor
      · rintro rfl
        exact ⟨[], [], rfl⟩
      · rintro ⟨before, after, h⟩
        exact (List.append_eq_nil_iff.1 (List.append_eq_nil_iff.1 h.symm).2).1
  | cons c rest ih =>
      rw [occursIn, Bool.or_eq_true, ih, List.isPrefixOf_iff_prefix]
      constructor
      · rintro (⟨after, h⟩ | ⟨before, after, h⟩)
        · exact ⟨[], after, h.symm⟩
        · exact ⟨c :: before, after, by rw [h]; rfl⟩
      · rintro ⟨before, after, h⟩
        cases before with
        | nil => exact .inl ⟨after, h.symm⟩
        | cons b before => exact .inr ⟨before, after, (List.cons.inj h).2⟩

end Text
end RecordFilter
