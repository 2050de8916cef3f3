/-!
# Scales

The suffixes that multiply a numeral: a single letter or one with `ib` stands for a power of 1024, a
letter with `b` for a power of 1000.
-/

namespace IntelHex

/-- The suffixes that multiply a numeral. -/
inductive Scale
  | k
  | m
  | g
  | kib
  | mib
  | gib
  | kb
  | mb
  | gb
deriving DecidableEq, Repr

namespace Scale

/-- All scales, in the order in which they are tried. -/
def all : List Scale :=
  [k, m, g, kib, mib, gib, kb, mb, gb]

/-- The letters of a scale. -/
def letters : Scale → List Char
  | k => ['k']
  | m => ['m']
  | g => ['g']
  | kib => ['k', 'i', 'b']
  | mib => ['m', 'i', 'b']
  | gib => ['g', 'i', 'b']
  | kb => ['k', 'b']
  | mb => ['m', 'b']
  | gb => ['g', 'b']

/-- The factor of a scale. -/
def factor : Scale → Nat
  | k | kib => 0x400
  | m | mib => 0x100000
  | g | gib => 0x40000000
  | kb => 1000
  | mb => 1000000
  | gb => 1000000000

/-- The scale with the given letters. -/
def ofLetters? (text : List Char) : Option Scale :=
  all.find? fun scale => scale.letters = text

end Scale

end IntelHex
