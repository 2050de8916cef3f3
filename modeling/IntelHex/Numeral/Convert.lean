import IntelHex.Numeral.Radix
import IntelHex.Numeral.Shape
import IntelHex.Text.Lowercase
import IntelHex.Text.Quoted

/-!
# Integers from values

Texts are read as numerals in any letter case; byte strings as plain decimal numerals, single
underscores between digits being allowed; floating-point numbers lose their fraction.
-/

namespace IntelHex.Numeral

/-- What an integer can be made from. -/
inductive Value
  /-- Nothing at all. -/
  | absent
  /-- A truth value. -/
  | truth (yes : Bool)
  /-- An integer. -/
  | integer (i : Int)
  /-- A floating-point number. -/
  | float (x : Float)
  /-- A text. -/
  | text (content : List Char)
  /-- A byte string. -/
  | bytes (content : List UInt8)
  /-- A list, which is no number. -/
  | list
  /-- A dictionary, which is no number. -/
  | dict

/-- Why there is no integer. -/
inductive Error
  /-- The text, given in lowercase, has not the shape of a numeral. -/
  | malformed (lowered : List Char)
  /-- Some digits do not belong to the base. -/
  | invalidDigits (base : Nat) (digits : List Char)
  /-- The byte string is no decimal numeral. -/
  | invalidBytes (content : List UInt8)
  /-- There are too many decimal digits. -/
  | tooManyDigits (count : Nat)
  /-- The floating-point number is not a number. -/
  | notANumber
  /-- The floating-point number is infinite. -/
  | infinite
  /-- A value of the named type is no number. -/
  | notNumeric (type : String)
deriving DecidableEq, Repr

/-- The most characters of an invalid literal that are shown. -/
def shownLimit : Nat := 200

/-- The wording of an invalid literal. -/
def invalidLiteral (base : Nat) (quoted : List Char) : String :=
  "invalid literal for int() with base " ++ toString base ++ ": "
    ++ String.ofList (quoted.take shownLimit)

/-- The wording of an error. -/
def Error.message : Error → String
  | .malformed lowered => "invalid syntax: " ++ String.ofList (Text.Quoted.text lowered)
  | .invalidDigits base digits => invalidLiteral base (Text.Quoted.text digits)
  | .invalidBytes content => invalidLiteral 10 (Text.Quoted.bytes (content.take shownLimit))
  | .tooManyDigits count =>
    "Exceeds the limit (" ++ toString Radix.decimalLimit
      ++ " digits) for integer string conversion: value has " ++ toString count
      ++ " digits; use sys.set_int_max_str_digits() to increase the limit"
  | .notANumber => "cannot convert float NaN to integer"
  | .infinite => "cannot convert float infinity to integer"
  | .notNumeric type =>
    "int() argument must be a string, a bytes-like object or a real number, not '" ++ type ++ "'"

/-- The base in which the digits of a numeral are read. -/
def Shape.base (s : Shape) : Nat :=
  if s.mark = some .hexadecimal ∨ s.suffixed then 16
  else match s.mark with
    | some .binary => 2
    | some .octal | some .zero => 8
    | _ => 10

/-- Whether a numeral says at once that it is hexadecimal and that it is not. -/
def Shape.contradicts (s : Shape) : Bool :=
  s.suffixed && (s.mark == some .binary || s.mark == some .octal)

/-- The integer with a sign, a magnitude and a scale. -/
def Shape.signed (s : Shape) (magnitude : Nat) : Int :=
  let scaled : Int := magnitude * (s.scale.elim 1 Scale.factor : Nat)
  if s.negative then -scaled else scaled

/-- The integer of a text, in any letter case. -/
def ofText (content : List Char) : Except Error Int :=
  let lowered := Text.lowercase content
  match Shape.ofText? lowered with
  | none => .error (.malformed lowered)
  | some s =>
    if s.contradicts then .error (.malformed lowered)
    else match Radix.read s.base s.digits with
      | .ok magnitude => .ok (s.signed magnitude)
      | .error (.tooMany count) => .error (.tooManyDigits count)
      | .error .invalid => .error (.invalidDigits s.base s.digits)

/-- Whether underscores stand only singly and between digits of a run that begins after `before`. -/
def singlyJoined (before : Char) : List Char → Bool
  | [] => before != '_'
  | c :: rest => (before != '_' || c != '_') && singlyJoined c rest

/-- The integer of a byte string: decimal digits, single underscores between them, a sign in front,
and ASCII blanks around. -/
def ofBytes (content : List UInt8) : Except Error Int :=
  let text := (content.map Text.Quoted.charOfByte).dropWhile Text.isAsciiBlank
  let (negative, text) := match text with
    | '+' :: rest => (false, rest)
    | '-' :: rest => (true, rest)
    | _ => (false, text)
  let run := text.takeWhile fun c => c.isDigit || c == '_'
  let rest := text.dropWhile fun c => c.isDigit || c == '_'
  if run.isEmpty || !singlyJoined '_' run then .error (.invalidBytes content)
  else match Radix.read 10 (run.filter (· != '_')) with
    | .error (.tooMany count) => .error (.tooManyDigits count)
    | .error .invalid => .error (.invalidBytes content)
    | .ok magnitude =>
      if rest.all Text.isAsciiBlank then .ok (if negative then -magnitude else magnitude)
      else .error (.invalidBytes content)

/-- The integer part of a floating-point number, toward zero. A finite number is its 53-bit significand
times a power of two. -/
def ofFloat (x : Float) : Except Error Int :=
  let bits := x.toBits.toNat
  let fraction := bits % 0x10000000000000
  let exponent := bits / 0x10000000000000 % 0x800
  if exponent = 2047 then .error (if fraction = 0 then .infinite else .notANumber)
  else
    let magnitude := (0x10000000000000 + fraction) <<< (exponent - 1075) >>> (1075 - exponent)
    .ok (if bits / 0x8000000000000000 = 1 then -magnitude else magnitude)

/-- The integer of a value; nothing has none. -/
def convert : Value → Except Error (Option Int)
  | .absent => .ok none
  | .truth yes => .ok (some (if yes then 1 else 0))
  | .integer i => .ok (some i)
  | .float x => (ofFloat x).map some
  | .text content => (ofText content).map some
  | .bytes content => (ofBytes content).map some
  | .list => .error (.notNumeric "list")
  | .dict => .error (.notNumeric "dict")

end IntelHex.Numeral
