import IntelHex.Digit

/-!
# Hexadecimal text

Bytes are written as two digits each, with an optional separator character between bytes. A number
is written without leading zeros and filled up to a width, its sign counting for one place.
-/

namespace IntelHex.Text.Hex

/-- The two characters of one byte. -/
def pair (letters : LetterCase) (b : UInt8) : List Char :=
  [(Digit.high b).char letters, (Digit.low b).char letters]

/-- The digits of a byte string, two for each byte. -/
def ofBytes (letters : LetterCase) (data : List UInt8) : List Char :=
  data.flatMap (pair letters)

/-- A separator has to be a single character. -/
inductive SeparatorError
  | notSingle
deriving DecidableEq, Repr

/-- The wording of a refused separator. -/
def SeparatorError.message : SeparatorError → String
  | .notSingle => "sep must be length 1."

/-- The digits of a byte string with a separator between bytes. An empty separator separates
nothing. In upper case the separator is capitalised with the digits, if it is an ASCII letter. -/
def separated (letters : LetterCase) (separator : List Char) (data : List UInt8) :
    Except SeparatorError (List Char) :=
  let capitalised (text : List Char) : List Char :=
    match letters with
    | .upper => text.map Char.toUpper
    | .lower => text
  match separator with
  | [] => .ok (ofBytes letters data)
  | [mark] => .ok (capitalised ([mark].intercalate (data.map (pair .lower))))
  | _ :: _ :: _ => .error .notSingle

/-- The digits of a number, the most significant first, and a single zero for zero. -/
def digits (n : Nat) : List Digit :=
  if n < 16 then [Fin.ofNat 16 n] else digits (n / 16) ++ [Fin.ofNat 16 n]
termination_by n
decreasing_by omega

/-- The characters of a number, without leading zeros. -/
def ofNat (letters : LetterCase) (n : Nat) : List Char :=
  (digits n).map (·.char letters)

/-- Zeros put in front of a text to fill a width. -/
def zeroFilled (width : Nat) (text : List Char) : List Char :=
  List.replicate (width - text.length) '0' ++ text

/-- A number filled with zeros up to a width. -/
def padded (letters : LetterCase) (width n : Nat) : List Char :=
  zeroFilled width (ofNat letters n)

/-- An integer filled with zeros between its sign and its digits, the sign counting for one place. -/
def paddedInt (letters : LetterCase) (width : Nat) (i : Int) : List Char :=
  if i < 0 then '-' :: padded letters (width - 1) i.natAbs
  else padded letters width i.natAbs

/-- A number as it stands in messages: the mark `0x` and capital digits, at least `width` of them. -/
def marked (width n : Nat) : String :=
  "0x" ++ String.ofList (padded .upper width n)

end IntelHex.Text.Hex
