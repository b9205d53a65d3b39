/-!
# Places in a source text

A place is told by its line and column, both counted from one. Columns count characters. Two
conventions are in use: a place where the grammar gives up counts a carriage return that no line
feed follows as an ordinary character, and the place of a number takes every carriage return as the
start of the line.
-/

namespace SdlCodegen.Sdl

/-- A line and a column, both counted from one. -/
structure Position where
  line : Nat
  column : Nat
  deriving DecidableEq, Repr

namespace Position

/-- The start of a text. -/
def start : Position := ⟨1, 1⟩

/-- The place behind a text where a line ends with a line feed, after a carriage return or not. -/
def after (position : Position) : List Char → Position
  | [] => position
  | '\r' :: '\n' :: rest => after ⟨position.line + 1, 1⟩ rest
  | '\n' :: rest => after ⟨position.line + 1, 1⟩ rest
  | _ :: rest => after ⟨position.line, position.column + 1⟩ rest

/-- The place behind a text where a carriage return goes back to the start of its line. -/
def afterReturns (position : Position) : List Char → Position
  | [] => position
  | '\r' :: rest => afterReturns ⟨position.line, 1⟩ rest
  | '\n' :: rest => afterReturns ⟨position.line + 1, 1⟩ rest
  | _ :: rest => afterReturns ⟨position.line, position.column + 1⟩ rest

/-- The place of an offset at which the grammar gives up. -/
def ofOffset (text : List Char) (offset : Nat) : Position :=
  start.after (text.take offset)

/-- The place of an offset at which a number begins. -/
def ofNumberOffset (text : List Char) (offset : Nat) : Position :=
  start.afterReturns (text.take offset)

end Position

end SdlCodegen.Sdl
