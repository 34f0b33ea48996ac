/-!
Words that resemble a given word. The likeness of two words is twice the number of characters in
their common blocks over the sum of their lengths: the longest common block first, then the same
to its left and to its right. In a long word a character that fills more than about a hundredth of
it starts no block.
-/

namespace SearchFilter.Text

/-- A common block of two words: where it starts in each, and how long it is. -/
structure Block where
  left : Nat
  right : Nat
  size : Nat
  deriving Repr

/-- The characters of a long word that are too frequent to start a block. -/
def isPopular (word : List Char) (c : Char) : Bool :=
  200 ≤ word.length && word.length / 100 + 1 < word.count c

/-- Lengths of the common blocks that end at one character of the first word and at each of the
second, from the lengths for the character before. -/
def nextRow (starts : Char → Bool) (c : Char) (word : List Char) (previous : List Nat) :
    List Nat :=
  (word.zip (0 :: previous)).map fun (d, size) => if c == d && starts d then size + 1 else 0

/-- The best block of a row that is longer than the best so far; the leftmost of equals. -/
def improve (best : Block) (left : Nat) (row : List Nat) : Block :=
  (row.zipIdx).foldl (fun best (size, right) =>
    if best.size < size then ⟨left + 1 - size, right + 1 - size, size⟩ else best) best

/-- The longest block that starts with characters that may start one. -/
def longestStarted (starts : Char → Bool) (a b : List Char) : Block :=
  let step := fun (state : Nat × List Nat × Block) (c : Char) =>
    let (left, previous, best) := state
    let row := nextRow starts c b previous
    (left + 1, row, improve best left row)
  (a.foldl step (0, b.map fun _ => 0, ⟨0, 0, 0⟩)).2.2

/-- How many characters agree at the beginning of two words. -/
def commonLength : List Char → List Char → Nat
  | c :: a, d :: b => if c == d then commonLength a b + 1 else 0
  | _, _ => 0

/-- A block extended over all equal characters on both sides. -/
def extend (a b : List Char) (block : Block) : Block :=
  let before := commonLength (a.take block.left).reverse (b.take block.right).reverse
  let after := commonLength (a.drop (block.left + block.size)) (b.drop (block.right + block.size))
  ⟨block.left - before, block.right - before, before + block.size + after⟩

/-- The longest common block of two words. -/
def longestBlock (starts : Char → Bool) (a b : List Char) : Block :=
  extend a b (longestStarted starts a b)

/-- The characters in the common blocks of two words, found at most `fuel` blocks deep. -/
def matched (starts : Char → Bool) : Nat → List Char → List Char → Nat
  | 0, _, _ => 0
  | fuel + 1, a, b =>
    let block := longestBlock starts a b
    if block.size = 0 then 0
    else
      matched starts fuel (a.take block.left) (b.take block.right) + block.size +
        matched starts fuel (a.drop (block.left + block.size))
          (b.drop (block.right + block.size))

/-- The likeness of two words as a quotient; two empty words are alike. -/
structure Likeness where
  matched : Nat
  total : Nat
  deriving Repr

def likeness (a b : List Char) : Likeness :=
  ⟨matched (fun c => !isPopular b c) (a.length + 1) a b, a.length + b.length⟩

namespace Likeness

/-- At least three fifths. -/
def isClose (x : Likeness) : Bool :=
  x.total == 0 || 3 * x.total ≤ 10 * x.matched

/-- The first quotient is the greater one; nothing exceeds two empty words. -/
def exceeds (x y : Likeness) : Bool :=
  if x.total = 0 then !(y.total == 0 || 2 * y.matched == y.total)
  else if y.total = 0 then false
  else y.matched * x.total < x.matched * y.total

end Likeness

/-- Better likeness first; of equals the word that comes later in the order of texts. -/
def closer (x y : Likeness × String) : Bool :=
  x.1.exceeds y.1 || (!y.1.exceeds x.1 && y.2 ≤ x.2)

/-- At most three words of a list that are close to a word, the closest first. -/
def similar (word : String) (candidates : List String) : List String :=
  let scored := candidates.map fun candidate => (likeness candidate.toList word.toList, candidate)
  (((scored.filter (·.1.isClose)).mergeSort closer).take 3).map (·.2)

end SearchFilter.Text
