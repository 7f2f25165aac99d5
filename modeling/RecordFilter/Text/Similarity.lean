import RecordFilter.Number.Double

/-!
# Similar names

**Measure.**  The similarity of two texts is `2 * M / T`: `T` is the sum of
their lengths and `M` the number of characters in matching blocks.  The longest
common block is found first, then the parts before it and after it are treated
in the same way.

**Frequent characters.**  In a second text of 200 characters or more, a
character that makes up more than one percent of it starts no block; it can
only extend one.

**Letters.**  The measure compares lists of letters of any kind, of which the
characters of a text are one.

**Result.**  `closeMatches` lists the at most three best
possibilities, best first.
-/

namespace RecordFilter
namespace Similarity

variable {α : Type} [DecidableEq α]

/-- A letter of the second text, and whether a block may start with it. -/
abbrev Mark (α : Type) := α × Bool

/-- Marks the letters of the second text that are too frequent to
start a block. -/
def marks (cs : List α) : List (Mark α) :=
  let n := cs.length
  cs.map fun c => (c, n < 200 || cs.count c ≤ n / 100 + 1)

/--
The lengths of the blocks that end at `a` and each mark, from those that end one
letter earlier on both sides.
-/
def nextRow (a : α) : Nat → List Nat → List (Mark α) → List Nat
  | diagonal, above, (c, starts) :: rest =>
      (if c = a && starts then diagonal + 1 else 0)
        :: nextRow a (above.headD 0) above.tail rest
  | _, _, [] => []

/-- A block: where it starts in the first text, where in the second, and
its length. -/
structure Block where
  left : Nat
  right : Nat
  size : Nat

/-- The longest block that ends in a row, if it beats the best one so far. -/
def bestInRow (i : Nat) : Nat → List Nat → Block → Block
  | _, [], best => best
  | j, k :: row, best =>
      bestInRow i (j + 1) row
        (if best.size < k then ⟨i + 1 - k, j + 1 - k, k⟩ else best)

/-- Scans the first text row by row. -/
def longestFrom (bs : List (Mark α)) : Nat → List Nat → Block → List α → Block
  | _, _, best, [] => best
  | i, above, best, a :: rest =>
      let row := nextRow a 0 above bs
      longestFrom bs (i + 1) row (bestInRow i 0 row best) rest

/-- How many leading letters two texts share. -/
def sharedLength : List α → List α → Nat
  | a :: as, b :: bs => if a = b then sharedLength as bs + 1 else 0
  | _, _ => 0

/-- Extends a block on both sides as far as the texts agree. -/
def extend (as bs : List α) (block : Block) : Block :=
  let before :=
    sharedLength (as.take block.left).reverse (bs.take block.right).reverse
  let after := sharedLength (as.drop (block.left + block.size))
    (bs.drop (block.right + block.size))
  ⟨block.left - before, block.right - before, before + block.size + after⟩

/-- The longest common block, the earliest one if there are several. -/
def longest (as : List α) (bs : List (Mark α)) : Block :=
  extend as (bs.map (·.1)) (longestFrom bs 0 [] ⟨0, 0, 0⟩ as)

/-- The number of letters in matching blocks; `fuel` bounds the
nesting of parts. -/
def matchedWithin : Nat → List α → List (Mark α) → Nat
  | 0, _, _ => 0
  | fuel + 1, as, bs =>
      let block := longest as bs
      if block.size = 0 then 0
      else
        matchedWithin fuel (as.take block.left) (bs.take block.right) +
          block.size
          + matchedWithin fuel (as.drop (block.left + block.size))
              (bs.drop (block.right + block.size))

/-- The number of letters of the two texts that lie in matching blocks. -/
def matched (as bs : List α) : Nat :=
  matchedWithin (as.length + 1) as (marks bs)

/-- The similarity of two texts; two empty texts are alike. -/
def ratio (as bs : List α) : Double :=
  if as.length + bs.length = 0 then .one
  else .ofRatio false (2 * matched as bs) (as.length + bs.length)

/-- The usual least similarity of a suggestion. -/
def usualCutoff : Double := .ofDecimal false 6 (-1)

/-- A least similarity lies between zero and one. -/
def validCutoff (cutoff : Double) : Bool :=
  Double.zero.le cutoff && cutoff.le .one

/-- Does the first scored text come before the second: higher score, then
later text? -/
def precedes (x y : Double × String) : Bool :=
  x.1.gt y.1 || (x.1.eq y.1 && decide (y.2 ≤ x.2))

/-- The at most three possibilities, spelt in letters, closest to the word;
best first. -/
def closestBy (spell : String → List α) (cutoff : Double) (word : List α)
    (possibilities : List String) : List String :=
  let scored := possibilities.map fun p => (ratio (spell p) word, p)
  (((scored.filter fun s => s.1.ge cutoff).mergeSort precedes).take 3).map (·.2)

/-- The at most three possibilities closest to the word, best first. -/
def closeMatches (cutoff : Double) (word : String)
    (possibilities : List String) : List String :=
  closestBy String.toList cutoff word.toList possibilities

end Similarity
end RecordFilter
