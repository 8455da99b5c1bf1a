/-!
Words that are spelled alike.

Two words share the longest run of characters that stands in both, and, on either side of it, what
their remainders share in the same way. Twice the number of shared characters over the number of
characters of both words is their likeness, a number between zero and one.
-/

namespace CilTrace.Text

/-- The number of characters that two texts begin with in common. -/
def commonStart : List Char → List Char → Nat
  | left :: lefts, right :: rights => if left = right then commonStart lefts rights + 1 else 0
  | _, _ => 0

/-- A run of characters that stands in two texts. -/
structure CommonRun where
  left : Nat
  right : Nat
  length : Nat
deriving DecidableEq, Repr

/-- The longest run that stands in two texts; of equally long ones the one that is first in the left
text, and then in the right one. -/
def longestRun (left right : List Char) : CommonRun :=
  (List.range left.length).foldl (fun best first =>
    (List.range right.length).foldl (fun best second =>
      let length := commonStart (left.drop first) (right.drop second)
      if best.length < length then ⟨first, second, length⟩ else best) best) ⟨0, 0, 0⟩

/-- The number of characters that two texts share; the left one has at most `limit` characters. -/
def sharedCount : Nat → List Char → List Char → Nat
  | 0, _, _ => 0
  | limit + 1, left, right =>
      let run := longestRun left right
      if run.length = 0 then 0
      else
        sharedCount limit (left.take run.left) (right.take run.right) + run.length +
          sharedCount limit (left.drop (run.left + run.length)) (right.drop (run.right + run.length))

/-- How alike two words are, as a fraction. -/
structure Likeness where
  shared : Nat
  total : Nat
deriving DecidableEq, Repr

namespace Likeness

def ofWords (left right : String) : Likeness :=
  ⟨sharedCount left.length left.toList right.toList, left.length + right.length⟩

/-- Whether two words are alike enough to be taken for one another: by three fifths. -/
def isClose (likeness : Likeness) : Bool :=
  3 * likeness.total ≤ 10 * likeness.shared

def isLess (left right : Likeness) : Bool :=
  left.shared * right.total < right.shared * left.total

end Likeness

/-- The most words that are offered in place of another. -/
def maxSuggestions : Nat := 3

/-- The candidates closest to a word, in alphabetical order. -/
def suggestions (candidates : List String) (word : String) : List String :=
  let close := (candidates.map fun candidate => (Likeness.ofWords candidate word, candidate)).filter
    fun entry => entry.1.isClose
  let ranked := close.mergeSort fun first second =>
    second.1.isLess first.1 || (!first.1.isLess second.1 && !decide (first.2 < second.2))
  ((ranked.take maxSuggestions).map (·.2)).mergeSort fun first second => !decide (second < first)

end CilTrace.Text
