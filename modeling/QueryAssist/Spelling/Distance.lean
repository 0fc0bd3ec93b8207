import QueryAssist.Text.LetterCase

/-!
# Edit distance

The least number of insertions, deletions and substitutions of single elements that turn one list
into another, and the similarity of words derived from it.

## Main definitions

* `Spelling.distance` — the edit distance of two lists
* `Spelling.similarity` — one minus the distance as a share of the longer word
-/

namespace QueryAssist.Spelling

variable {α : Type} [DecidableEq α]

/-- The distances of the word read so far, with `a` appended, to the beginnings of `bs` that go
beyond the one at distance `left`; `row` holds the distances without `a`. -/
def extendRow (a : α) (left : Nat) : (bs : List α) → (row : List Nat) → List Nat
  | b :: bs, diagonal :: above :: row =>
    -- delete `a`, insert `b`, or put `b` in the place of `a`
    let here := min (min (above + 1) (left + 1)) (diagonal + if a = b then 0 else 1)
    here :: extendRow a here bs (above :: row)
  | _, _ => []

/-- The distances of a word to all beginnings of `bs`, given those of the word without its last
element `a`. -/
def nextRow (bs : List α) (row : List Nat) (a : α) : List Nat :=
  let left := row.headD 0 + 1
  left :: extendRow a left bs row

/-- The edit distance, computed row by row; the rows run along `bs`. -/
def rowDistance (as bs : List α) : Nat :=
  (as.foldl (nextRow bs) (List.range (bs.length + 1))).getLastD 0

/-- The edit distance. The rows run along the shorter list. -/
def distance (as bs : List α) : Nat :=
  if as.length < bs.length then rowDistance bs as else rowDistance as bs

/-- The edit distance of two texts, counted in characters. -/
def textDistance (a b : String) : Nat := distance a.toList b.toList

/-- How alike two words are when case does not matter: one for equal words, zero for words without
anything in common. -/
def similarity (a b : String) : Float :=
  let a := Text.lower a
  let b := Text.lower b
  let longer := max a.length b.length
  if longer = 0 then 1.0 else 1.0 - (textDistance a b).toFloat / longer.toFloat

end QueryAssist.Spelling
