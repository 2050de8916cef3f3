import IntelHex.Numeral.Scale
import IntelHex.Text.Blank

/-!
# The shape of numerals

A numeral is written, between blanks, as an optional sign, an optional base mark, digits, an optional
`h`, and an optional scale; blanks may also stand after the sign and before the scale. Where a
character could belong to two parts the earlier part takes it, as long as the rest of the numeral
can still be read: each optional part is tried in a fixed order of preference, and a run takes as many
characters as it can.
-/

namespace IntelHex.Numeral

/-- The marks in front of the digits. -/
inductive Mark
  | hexadecimal
  | binary
  | octal
  /-- A zero, which marks octal digits as well. -/
  | zero
deriving DecidableEq, Repr

/-- All marks, in the order in which they are tried. -/
def Mark.all : List Mark :=
  [hexadecimal, binary, octal, zero]

/-- The characters of a mark. -/
def Mark.letters : Mark → List Char
  | hexadecimal => ['0', 'x']
  | binary => ['0', 'b']
  | octal => ['0', 'o']
  | zero => ['0']

/-- The parts of a numeral. -/
structure Shape where
  /-- Whether the sign is a minus. -/
  negative : Bool
  /-- The mark in front of the digits. -/
  mark : Option Mark
  /-- The digits, of whatever base. -/
  digits : List Char
  /-- Whether an `h` follows the digits. -/
  suffixed : Bool
  /-- The scale. -/
  scale : Option Scale
deriving DecidableEq, Repr

/-- A lowercase hexadecimal digit. -/
def isDigitChar (c : Char) : Bool :=
  c.isDigit || (decide ('a' ≤ c) && decide (c ≤ 'f'))

section Matching

variable {α : Type}

/-- Passes blanks, as many as possible, before what is read next. -/
def afterBlanks (next : List Char → Option α) : List Char → Option α
  | [] => next []
  | c :: rest =>
    if Text.isBlank c then (afterBlanks next rest).or (next (c :: rest)) else next (c :: rest)

/-- Takes digits, as many as possible and at least one, to those `taken` before; the last one stands
first. -/
def takingDigits (next : List Char → List Char → Option α) (taken : List Char) :
    List Char → Option α
  | [] => none
  | c :: rest =>
    if isDigitChar c then
      (takingDigits next (c :: taken) rest).or (next (c :: taken) rest)
    else none

/-- The text after some given letters, if it begins with them. -/
def dropLetters? : List Char → List Char → Option (List Char)
  | [], text => some text
  | _ :: _, [] => none
  | l :: letters, c :: text => if l = c then dropLetters? letters text else none

/-- Takes the first of some alternatives with which the rest can be read, or none of them. -/
def choosing {β : Type} (letters : β → List Char) (next : Option β → List Char → Option α)
    (text : List Char) : List β → Option α
  | [] => next none text
  | b :: more =>
    ((dropLetters? (letters b) text).bind (next (some b))).or (choosing letters next text more)

end Matching

/-- Reads a sign; a missing one is a plus. -/
def afterSign {α : Type} (next : Bool → List Char → Option α) : List Char → Option α
  | '+' :: rest => (next false rest).or (next false ('+' :: rest))
  | '-' :: rest => (next true rest).or (next false ('-' :: rest))
  | text => next false text

/-- The end of a numeral, once its parts are known. -/
def atEnd {α : Type} (parts : α) : List Char → Option α
  | [] => some parts
  | _ :: _ => none

/-- Reads a scale and the blanks around it. -/
def readScale : List Char → Option (Option Scale) :=
  afterBlanks fun text =>
    choosing Scale.letters (fun scale => afterBlanks (atEnd scale)) text Scale.all

/-- Reads what follows the digits: whether there is an `h`, and the scale. -/
def readTail : List Char → Option (Bool × Option Scale)
  | 'h' :: rest =>
    ((readScale rest).map fun scale => (true, scale)).or
      ((readScale ('h' :: rest)).map fun scale => (false, scale))
  | text => (readScale text).map fun scale => (false, scale)

/-- Reads the mark, the digits and what follows them. -/
def readBody (negative : Bool) (text : List Char) : Option Shape :=
  choosing Mark.letters
    (fun mark => takingDigits (fun taken rest => (readTail rest).map fun (suffixed, scale) =>
      ⟨negative, mark, taken.reverse, suffixed, scale⟩) [])
    text Mark.all

/-- The parts of a lowercase text that is a numeral. -/
def Shape.ofText? (text : List Char) : Option Shape :=
  afterBlanks (afterSign fun negative => afterBlanks (readBody negative)) text

end IntelHex.Numeral
