import RecordFilter.Memory.Operator
import RecordFilter.Sql.Operator
import RecordFilter.Proofs.Outcome
import Mathlib.Data.List.Infix

/-!
# Wildcards match literally

This module says which texts a pattern with wildcards matches, and that a text
which was escaped for a pattern is found exactly where it occurs.

**Patterns.**  `%` stands for any run of characters, `_` for any one character,
and every other character for itself.  Behind the escape sign each character
stands for itself, the wildcards and the escape sign included.  A pattern cannot
end in an escape sign that has nothing behind it.

**Method.**  An escaped text reads back as its own characters, whatever follows
it in the pattern.  Parts that are characters match that text and nothing else,
and the two runs around them match what stands before and after.

**Main result.**
* `contains_matches_literally`: the pattern of a search on a column matches a
  text exactly if the search in memory finds the input in it.
-/

namespace RecordFilter
namespace Sql

/-! ## Patterns -/

/-- What stands at one place of a pattern. -/
inductive PatternPart where
  /-- Any run of characters, the empty one included. -/
  | run
  /-- Any one character. -/
  | one
  | literal (c : Char)
  deriving DecidableEq

/-- What a character stands for that is not escaped. -/
def PatternPart.ofChar (c : Char) : PatternPart :=
  if c = '%' then .run else if c = '_' then .one else .literal c

/-- The parts of a pattern, unless it ends in an open escape sign. -/
def patternParts? (escape : Char) : List Char → Option (List PatternPart)
  | [] => some []
  | c :: rest =>
      if c = escape then
        match rest with
        | [] => none
        | d :: rest => (patternParts? escape rest).map (.literal d :: ·)
      else (patternParts? escape rest).map (.ofChar c :: ·)

/-- Do the parts match the whole text? -/
def partsMatch : List PatternPart → List Char → Bool
  | [], text => text.isEmpty
  | .run :: parts, text => text.tails.any (partsMatch parts)
  | .one :: _, [] => false
  | .one :: parts, _ :: text => partsMatch parts text
  | .literal _ :: _, [] => false
  | .literal c :: parts, d :: text => c = d && partsMatch parts text

/-- Does the text match the pattern? -/
def like (escape : Char) (pattern text : List Char) : Bool :=
  match patternParts? escape pattern with
  | some parts => partsMatch parts text
  | none => false

/-- The pattern of what occurs anywhere: a parameter between two runs. -/
def insidePattern (parameter : List Char) : List Char :=
  '%' :: (parameter ++ ['%'])

/-! ## Reading an escaped text -/

theorem patternParts?_escape
    (escape c : Char)
    (rest : List Char) :
    patternParts? escape (escape :: c :: rest) =
      (patternParts? escape rest).map (.literal c :: ·) := by
  rw [patternParts?.eq_def]
  simp

theorem patternParts?_unescaped
    {escape c : Char}
    (h : c ≠ escape)
    (rest : List Char) :
    patternParts? escape (c :: rest) =
      (patternParts? escape rest).map (.ofChar c :: ·) := by
  rw [patternParts?.eq_def]
  simp [h]

/-- Every character of an escaped text stands for itself. -/
theorem patternParts?_escaped_append
    (v pattern : List Char) :
    patternParts? escapeSign (escaped v ++ pattern) =
      (patternParts? escapeSign pattern).map
        (v.map PatternPart.literal ++ ·) := by
  induction v with
  | nil => simp [escaped]
  | cons c v ih =>
      by_cases hspecial : c = escapeSign ∨ c = '%' ∨ c = '_'
      · have hescaped :
            escaped (c :: v) ++ pattern =
              escapeSign :: c :: (escaped v ++ pattern) := by
          simp [escaped, or_assoc, hspecial]
        rw [hescaped, patternParts?_escape, ih, Option.map_map]
        rfl
      · have hescaped :
            escaped (c :: v) ++ pattern = c :: (escaped v ++ pattern) := by
          simp [escaped, or_assoc, hspecial]
        have hliteral : PatternPart.ofChar c = .literal c := by
          simp [PatternPart.ofChar, not_or.mp (not_or.mp hspecial).2]
        rw [hescaped, patternParts?_unescaped (not_or.mp hspecial).1, ih,
          Option.map_map, hliteral]
        rfl

/-! ## Matching -/

/-- A run takes any beginning of the text. -/
theorem partsMatch_run
    {parts : List PatternPart}
    {text : List Char} :
    partsMatch (.run :: parts) text = true ↔
      ∃ before rest, text = before ++ rest ∧ partsMatch parts rest = true := by
  rw [partsMatch, List.any_eq_true]
  constructor
  · rintro ⟨rest, hrest, hmatch⟩
    obtain ⟨before, rfl⟩ := (List.mem_tails rest text).mp hrest
    exact ⟨before, rest, rfl, hmatch⟩
  · rintro ⟨before, rest, rfl, hmatch⟩
    exact ⟨rest, (List.mem_tails rest _).mpr (List.suffix_append before rest),
      hmatch⟩

/-- A run at the end takes whatever is left. -/
theorem partsMatch_last_run
    (text : List Char) :
    partsMatch [.run] text = true := by
  exact partsMatch_run.mpr ⟨text, [], (List.append_nil text).symm, rfl⟩

/-- Parts that are characters take these characters. -/
theorem partsMatch_literals
    {v : List Char}
    {parts : List PatternPart}
    {text : List Char} :
    partsMatch (v.map PatternPart.literal ++ parts) text = true ↔
      ∃ rest, text = v ++ rest ∧ partsMatch parts rest = true := by
  induction v generalizing text with
  | nil => simp
  | cons c v ih =>
      cases text with
      | nil => simp [partsMatch]
      | cons d text =>
          rw [List.map_cons, List.cons_append, partsMatch, Bool.and_eq_true,
            decide_eq_true_iff, ih]
          constructor
          · rintro ⟨rfl, rest, rfl, hmatch⟩
            exact ⟨rest, rfl, hmatch⟩
          · rintro ⟨rest, htext, hmatch⟩
            obtain ⟨hd, htext⟩ := List.cons.inj htext
            exact ⟨hd.symm, rest, htext, hmatch⟩

/-- Between two runs, an escaped text matches exactly where it occurs. -/
theorem like_insidePattern_escaped
    (v text : List Char) :
    like escapeSign (insidePattern (escaped v)) text =
      Text.occursIn v text := by
  have hparts :
      patternParts? escapeSign (insidePattern (escaped v)) =
        some (.run :: (v.map PatternPart.literal ++ [.run])) := by
    have hopen :
        patternParts? escapeSign (insidePattern (escaped v)) =
          (patternParts? escapeSign (escaped v ++ ['%'])).map (.run :: ·) :=
      patternParts?_unescaped (by decide) _
    have hclose : patternParts? escapeSign ['%'] = some [.run] := rfl
    rw [hopen, patternParts?_escaped_append, hclose]
    rfl
  rw [like, hparts, Bool.eq_iff_iff, Text.occursIn_iff]
  simp only [partsMatch_run, partsMatch_literals, partsMatch_last_run, and_true]
  constructor
  · rintro ⟨before, _, htext, after, rfl⟩
    exact ⟨before, after, htext⟩
  · rintro ⟨before, after, htext⟩
    exact ⟨before, v ++ after, htext, after, rfl⟩

/-! ## Searching -/

/-- **A search on a column matches literally.**  The condition that the
built-in operator makes of an input matches a text exactly if the built-in
operator in memory accepts it, which is the case exactly if the text of the
input occurs in it. -/
theorem contains_matches_literally
    {input : Value}
    {v : String}
    (hinput : input.plainText = .ok v)
    (column : Column)
    (s : String) :
    ∃ fragment parameter,
      apply .contains column input = .ok (some (.leaf fragment)) ∧
      fragment.render =
        ⟨column.text ++ " LIKE '%' || ? || '%' ESCAPE '/'", [.text parameter]⟩ ∧
      Memory.evaluate .contains (.text s) input =
        .ok (like '/' (insidePattern parameter.toList) s.toList) ∧
      (like '/' (insidePattern parameter.toList) s.toList = true ↔
        ∃ before after, s.toList = before ++ (v.toList ++ after)) := by
  have hfound :
      like '/' (insidePattern (String.ofList (escaped v.toList)).toList)
        s.toList = Text.occursIn v.toList s.toList := by
    rw [String.toList_ofList]
    exact like_insidePattern_escaped v.toList s.toList
  refine ⟨.like column .inside v, String.ofList (escaped v.toList), ?_, rfl, ?_,
    ?_⟩
  · simp only [apply, occurrence, hinput, Outcome.ok_bind, Outcome.pure_eq_ok,
      whole]
  · rw [hfound]
    simp only [Memory.evaluate, Memory.textContains, hinput, Outcome.ok_bind]
    rfl
  · rw [hfound]
    exact Text.occursIn_iff

/-- A column of texts. -/
def remark : Column := ⟨"remark", .table none "sales", "remark", .text⟩

/-- Wildcards and escape signs in an input are looked for as they are. -/
theorem contains_escaped_wildcards :
    (Value.text "5_/%").plainText = .ok "5_/%" ∧
      Memory.evaluate .contains (.text "now 5_/% off") (.text "5_/%") =
        .ok true ∧
      like '/' (insidePattern "5/_///%".toList) "now 5_/% off".toList = true ∧
      like '/' (insidePattern "5/_///%".toList) "now 50/1% off".toList =
        false := by
  have hinput : (Value.text "5_/%").plainText = .ok "5_/%" := rfl
  have hparameter (s : String) :
      ∃ b, Memory.evaluate .contains (.text s) (.text "5_/%") = .ok b ∧
        like '/' (insidePattern "5/_///%".toList) s.toList = b := by
    obtain ⟨fragment, parameter, hmade, hrender, hevaluate, -⟩ :=
      contains_matches_literally hinput remark s
    cases hmade
    injection hrender with _ hparameters
    cases hparameters
    exact ⟨_, hevaluate, rfl⟩
  obtain ⟨_, hyes, hlike⟩ := hparameter "now 5_/% off"
  obtain ⟨_, hno, hunlike⟩ := hparameter "now 50/1% off"
  cases hyes
  cases hno
  exact ⟨hinput, rfl, hlike, hunlike⟩

end Sql
end RecordFilter
