import ChatService.Calculator.Flat
import ChatService.Text.Blank
import ChatService.Text.Case

/-!
# Evaluating an expression

The text is first prepared: lower case, the constants written out, white space taken
out, a comma read as a point. Then its groups are dissolved from the right: the last
open parenthesis and the first close parenthesis behind it enclose a group without
parentheses, and its value, or the value of the function named before it, takes its
place in the text. What is left is flat.

The constants are replaced wherever their letters stand, inside other words too.
-/

namespace ChatService.Calculator

/-- The circle constant. -/
def piText : List Char := formatNumber (Float.ofBits 0x400921FB54442D18)

/-- The base of the natural logarithm. -/
def eulerText : List Char := formatNumber (Float.ofBits 0x4005BF0A8B145769)

/-- The text with every `pi` written out, from left to right. -/
def expandPi : List Char → List Char
  | 'p' :: 'i' :: rest => piText ++ expandPi rest
  | c :: rest => c :: expandPi rest
  | [] => []

/-- The text with every `e` written out. -/
def expandEuler (s : List Char) : List Char := s.flatMap fun c => if c = 'e' then eulerText else [c]

/-- The text that is evaluated in place of the one typed. -/
def prepare (s : List Char) : List Char :=
  ((expandEuler (expandPi (Text.lower s))).filter fun c => !Text.isBlank c).map
    fun c => if c = ',' then '.' else c

/-- The function that a text given backwards ends with the name of, and the text before the name. -/
def functionBefore? (before : List Char) : Option (Function × List Char) :=
  Function.all.findSome? fun f =>
    if f.name.reverse.isPrefixOf before then some (f, before.drop f.name.length) else none

theorem length_functionBefore? {before rest : List Char} {f : Function}
    (h : functionBefore? before = some (f, rest)) : rest.length ≤ before.length := by
  obtain ⟨g, _, found⟩ := List.exists_of_findSome?_eq_some h
  split at found
  · cases found
    simp
  · cases found

/-- The value of a group. It is prepared once more: taking out white space may have joined letters to a
constant. -/
def group (s : List Char) : Except Fault Float := flat (prepare s)

/-- Dissolves the groups of a text from right to left. The first argument is the text not yet seen,
given backwards, the second the text behind it, which has no open parenthesis. -/
def dissolve : List Char → List Char → Except Fault Float
  | [], after => if after.contains ')' then .error .unbalanced else flat after
  | c :: before, after =>
    if c = '(' then
      match after.dropWhile (· != ')') with
      | [] => .error .unbalanced
      | _ :: rest => do
        let x ← group (after.takeWhile (· != ')'))
        match _found : functionBefore? before with
        | none => dissolve before (formatNumber x ++ rest)
        | some (f, before') => do
          let y ← f.apply x
          dissolve before' (formatNumber y ++ rest)
    else dissolve before (c :: after)
termination_by before _ => before.length
decreasing_by
  · simp
  · have := length_functionBefore? _found
    simp only [List.length_cons]
    omega
  · simp

def evaluate (s : List Char) : Except Fault Float := dissolve (prepare s).reverse []

end ChatService.Calculator
