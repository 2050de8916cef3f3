/-!
# Control sequences

A control sequence tells a terminal how to show what follows: an escape character and an opening
bracket, parameters, intermediate characters, and one final character. Text that is not meant for a
terminal is written without them. What begins like a control sequence and does not end like one is
text.
-/

namespace IntelHex.Text.ControlSequence

/-- The character that a control sequence begins with. -/
def escapeChar : Char := '\x1b'

/-- The characters of the parameters: the digits up to the question mark. -/
def isParameter (c : Char) : Bool :=
  decide ('0' ≤ c) && decide (c ≤ '?')

/-- The characters between the parameters and the final one: the space up to the slash. -/
def isIntermediate (c : Char) : Bool :=
  decide (' ' ≤ c) && decide (c ≤ '/')

/-- The characters that a control sequence can end with: the at sign up to the tilde. -/
def isFinal (c : Char) : Bool :=
  decide ('@' ≤ c) && decide (c ≤ '~')

/-- What follows a control sequence, given what follows its opening bracket. -/
def rest? (body : List Char) : Option (List Char) :=
  match (body.dropWhile isParameter).dropWhile isIntermediate with
  | c :: rest => if isFinal c then some rest else none
  | [] => none

/-- The length of the control sequence that a text begins with, and zero if there is none. -/
def leadingLength (text : List Char) : Nat :=
  match text with
  | c :: '[' :: body =>
    if c = escapeChar then ((rest? body).map fun rest => text.length - rest.length).getD 0 else 0
  | _ => 0

/-- Leaves out some leading characters, and every control sequence after them. -/
def removeAfter : (skipped : Nat) → List Char → List Char
  | _, [] => []
  | n + 1, _ :: rest => removeAfter n rest
  | 0, c :: rest =>
    match leadingLength (c :: rest) with
    | n + 1 => removeAfter n rest
    | 0 => c :: removeAfter 0 rest

/-- A text without its control sequences, each taken where the one before it has ended. -/
def remove (text : List Char) : List Char :=
  removeAfter 0 text

/-- Only an escape character begins a control sequence. -/
theorem leadingLength_cons_of_ne {c : Char} (h : c ≠ escapeChar) (rest : List Char) :
    leadingLength (c :: rest) = 0 := by
  unfold leadingLength
  split
  · next heq =>
    cases heq
    rw [if_neg h]
  · rfl

/-- A text without an escape character stays as it is. -/
theorem remove_eq_self {text : List Char} (h : escapeChar ∉ text) : remove text = text := by
  unfold remove
  induction text with
  | nil => rfl
  | cons c rest ih =>
    rw [List.mem_cons, not_or] at h
    rw [removeAfter, leadingLength_cons_of_ne (Ne.symm h.1)]
    exact congrArg (c :: ·) (ih h.2)

end IntelHex.Text.ControlSequence
