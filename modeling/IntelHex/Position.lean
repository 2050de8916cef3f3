/-!
# Positions in the input

The position counts the bytes that have been accepted and the lines that have been begun. A line ends
with a carriage return, a line feed, or a carriage return followed by a line feed.
-/

namespace IntelHex

/-- How far the input has been accepted. -/
structure Position where
  /-- The number of accepted bytes. -/
  offset : Nat := 0
  /-- The current line, counted from one. -/
  line : Nat := 1
  /-- Whether the last byte between records was a carriage return. -/
  afterReturn : Bool := false
deriving DecidableEq, Repr

namespace Position

/-- One more byte has been accepted. -/
def advanceByte (p : Position) : Position :=
  { p with offset := p.offset + 1 }

/-- A line feed ends a line, unless a carriage return has just ended it. -/
def lineFeed (p : Position) : Position :=
  { p with line := if p.afterReturn then p.line else p.line + 1, afterReturn := false }

/-- A carriage return ends a line. -/
def carriageReturn (p : Position) : Position :=
  { p with line := p.line + 1, afterReturn := true }

/-- A colon begins a record. -/
def recordMark (p : Position) : Position :=
  { p with afterReturn := false }

end Position

end IntelHex
