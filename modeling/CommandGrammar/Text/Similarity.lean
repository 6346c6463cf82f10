/-!
Similarity of two texts by matching blocks: the longest common block is found, and the search goes
on to its left and to its right. The ratio is twice the matched characters over all characters. In a
long text a frequent character is popular: no block starts from it, though a block extends over it.
-/

namespace CommandGrammar.Text

/-! ### Blocks -/

/-- A common block: where it begins in both texts, and its length. -/
structure Block where
  left : Nat
  right : Nat
  size : Nat
deriving DecidableEq

/-- The length of the common beginning of two texts, over characters that pass the test. -/
def commonRun (usable : Char → Bool) : List Char → List Char → Nat
  | a :: as, b :: bs => if a == b && usable a then commonRun usable as bs + 1 else 0
  | _, _ => 0

/-- The longest block that begins at the head of `as`; `bs` begins at position `right`. -/
def longestInRow (usable : Char → Bool) (left : Nat) (as : List Char) (best : Block) :
    Nat → List Char → Block
  | _, [] => best
  | right, b :: bs =>
    let size := commonRun usable as (b :: bs)
    let best := if best.size < size then ⟨left, right, size⟩ else best
    longestInRow usable left as best (right + 1) bs

/-- The longest block of usable characters, the earliest in the first text and then in the second;
`as` begins at position `left`. -/
def longestFrom (usable : Char → Bool) (bs : List Char) (best : Block) :
    Nat → List Char → Block
  | _, [] => best
  | left, a :: as =>
    longestFrom usable bs (longestInRow usable left (a :: as) best 0 bs) (left + 1) as

/-- The length of the common beginning of two texts. -/
def commonPrefix (as bs : List Char) : Nat := commonRun (fun _ => true) as bs

/-- The block with equal neighbours on both sides taken in. -/
def Block.extend (block : Block) (as bs : List Char) : Block :=
  let before := commonPrefix (as.take block.left).reverse (bs.take block.right).reverse
  let after :=
    commonPrefix (as.drop (block.left + block.size)) (bs.drop (block.right + block.size))
  ⟨block.left - before, block.right - before, before + block.size + after⟩

/-- The block that the search settles on first: the longest of usable characters, extended; without
one, what the two texts have in common at their beginnings. -/
def longestBlock (usable : Char → Bool) (as bs : List Char) : Block :=
  (longestFrom usable bs ⟨0, 0, 0⟩ 0 as).extend as bs

/-! ### Ratio -/

/-- The number of characters in matching blocks. -/
def matched (usable : Char → Bool) (as bs : List Char) : Nat :=
  match longestBlock usable as bs with
  | ⟨left, right, size⟩ =>
    if _h : 0 < size ∧ left < as.length then
      matched usable (as.take left) (bs.take right) + size +
        matched usable (as.drop (left + size)) (bs.drop (right + size))
    else 0
termination_by as.length
decreasing_by
  · simp only [List.length_take]; omega
  · simp only [List.length_drop]; omega

/-- The text length from which characters can be popular. -/
def popularityThreshold : Nat := 200

/-- The frequent characters of a long text. -/
def popularIn (bs : List Char) : List Char :=
  if bs.length < popularityThreshold then []
  else bs.eraseDups.filter fun c => bs.length / 100 + 1 < bs.count c

/-- A share of matched characters: `hits` of `total`, each hit counting in both texts. -/
structure Ratio where
  hits : Nat
  total : Nat
deriving DecidableEq

namespace Ratio

/-- The ratio's numerator; two empty texts are alike. -/
def numerator (r : Ratio) : Nat := if r.total = 0 then 1 else 2 * r.hits

/-- The ratio's denominator. -/
def denominator (r : Ratio) : Nat := if r.total = 0 then 1 else r.total

/-- Comparison of the fractions. -/
def le (r s : Ratio) : Bool := decide (r.numerator * s.denominator ≤ s.numerator * r.denominator)

/-- The least ratio of texts worth suggesting, three fifths. -/
def isClose (r : Ratio) : Bool := decide (3 * r.denominator ≤ 5 * r.numerator)

end Ratio

/-- How alike a text is to a word. -/
def similarity (text word : String) : Ratio :=
  let as := text.toList
  let bs := word.toList
  let popular := popularIn bs
  ⟨matched (fun c => !popular.contains c) as bs, as.length + bs.length⟩

/-! ### Suggestions -/

/-- A text beside its similarity to a word. -/
structure Scored where
  ratio : Ratio
  text : String
deriving DecidableEq

/-- The more alike comes first, and of equally alike texts the greater. -/
def Scored.precedes (s t : Scored) : Bool :=
  if t.ratio.le s.ratio then
    if s.ratio.le t.ratio then decide (t.text ≤ s.text) else true
  else false

/-- The texts close to the word, each with its similarity, best first. -/
def closeTexts (word : String) (texts : List String) : List Scored :=
  ((texts.map fun text => ⟨similarity text word, text⟩).filter fun s => s.ratio.isClose).mergeSort
    Scored.precedes

/-- At most `limit` texts close to the word, best first. -/
def closest (limit : Nat) (word : String) (texts : List String) : List String :=
  ((closeTexts word texts).take limit).map Scored.text

end CommandGrammar.Text
