import CilTrace.Text.Wide

/-!
Control sequences for terminals.

A sequence is an escape character, an opening bracket, any number of digits, semicolons and question
marks, and one Latin letter. What a command prints goes to files and pipes, so sequences in it are
left out. They are looked for once, from left to right: characters that meet when a sequence between
them is left out are not looked at again.
-/

namespace CilTrace

namespace Control

/-- A character between the opening of a sequence and its letter. -/
def isParameter : CodePoint → Bool
  | .char char => char == ';' || char == '?' || char.isDigit
  | .lone _ => false

/-- The number of members of the sequence that begins a text. -/
def sequenceLength? : List CodePoint → Option Nat
  | .char '\x1b' :: .char '[' :: rest =>
      let parameters := rest.takeWhile isParameter
      match rest.drop parameters.length with
      | .char letter :: _ => if letter.isAlpha then some (parameters.length + 3) else none
      | _ => none
  | _ => none

/-- Leaves out `skip` members, and every sequence after them. -/
def dropFrom : Nat → List CodePoint → List CodePoint
  | _, [] => []
  | skip + 1, _ :: rest => dropFrom skip rest
  | 0, point :: rest =>
      match sequenceLength? (point :: rest) with
      | some length => dropFrom (length - 1) rest
      | none => point :: dropFrom 0 rest

theorem sequenceLength?_eq_none {point : CodePoint} (noEscape : point ≠ .char '\x1b')
    (rest : List CodePoint) : sequenceLength? (point :: rest) = none := by
  unfold sequenceLength?
  split
  · next equal => exact absurd (List.cons.inj equal).1 noEscape
  · rfl

/-- Nothing is left out of a text without escape characters. -/
theorem dropFrom_eq_self {points : List CodePoint}
    (noEscape : ∀ point ∈ points, point ≠ .char '\x1b') : dropFrom 0 points = points := by
  induction points with
  | nil => rfl
  | cons point rest induction =>
      have head := sequenceLength?_eq_none (noEscape point List.mem_cons_self) rest
      have tail := induction fun other member => noEscape other (List.mem_cons_of_mem point member)
      simp [dropFrom, head, tail]

end Control

/-- A wide text without its control sequences. -/
def WideText.withoutControls (text : WideText) : WideText :=
  ⟨Control.dropFrom 0 text.points⟩

/-- A text without its control sequences. -/
def Text.withoutControls (text : String) : String :=
  (WideText.ofString text).withoutControls.toString

example : Text.withoutControls "\x1b[1;31mred\x1b[0m \x1b[x1" = "red 1" := by decide +kernel

end CilTrace
