/-!
# Layout of code in boxes

Code is a sequence of words, breaks and boxes. A box that fits in what is left of its line is
written on that line, with blanks for its breaks. In a box that does not fit every break of its own
ends the line, and the lines are indented by the box. Whether a box fits is decided where it begins,
from the width of the box and of what follows it up to the next break.

Widths are counted in bytes. A line has 89 of them, but 60 however deep it is indented.
-/

namespace SdlCodegen.Layout

/-- A part of code to be laid out. -/
inductive Piece where
  /-- Text that stays in one piece. -/
  | word (text : String)
  /-- A place where the line ends if the box does not fit. Then `last` stands at its end and the
  next line is indented by `offset` more than its box; else there are `blanks` blanks. -/
  | soft (blanks : Nat) (offset : Int) (last : String)
  /-- A place where the line always ends, so that no box around it fits. -/
  | line (offset : Int)
  /-- A place where the line never ends, though no box is measured beyond it. -/
  | seam
  /-- The beginning of a box that is indented by `indent` more than the box around it. -/
  | boxStart (indent : Int)
  /-- The end of the last box that is open. -/
  | boxEnd
  deriving DecidableEq, Repr

/-- The bytes of a line. -/
def lineWidth : Int := 89

/-- The bytes of a line that are left however deep it is indented. -/
def leastWidth : Int := 60

/-- The indentation of a box inside another. -/
def boxIndent : Int := 4

/-- Whether pieces fit in `room` bytes up to the first break outside `depth` open boxes. -/
def fits (room : Int) (depth : Nat) : List Piece → Bool
  | [] => 0 ≤ room
  | .word text :: rest =>
    text.utf8ByteSize ≤ room && fits (room - text.utf8ByteSize) depth rest
  | .soft blanks _ _ :: rest =>
    if depth = 0 then 0 ≤ room else blanks ≤ room && fits (room - blanks) depth rest
  | .line _ :: _ => depth = 0 && 0 ≤ room
  | .seam :: rest => if depth = 0 then 0 ≤ room else fits room depth rest
  | .boxStart _ :: rest => fits room (depth + 1) rest
  | .boxEnd :: rest => fits room (depth - 1) rest

/-- What is known of an open box: a broken one knows the indentation around it. -/
inductive Frame where
  | fitting
  | broken (outer : Int)
  deriving DecidableEq, Repr

/-- Where the printer is: the indentation of the innermost broken box, the bytes left on the line,
the blanks that are due before the next word, and the open boxes. -/
structure State where
  indent : Int
  room : Int
  due : Nat
  frames : List Frame

/-- The beginning of a text. -/
def State.start : State := ⟨0, lineWidth, 0, []⟩

/-- The beginning of a line that is indented by `offset` more than its box. -/
def State.nextLine (state : State) (offset : Int) : State :=
  { state with
    room := max (lineWidth - (state.indent + offset)) leastWidth
    due := (state.indent + offset).toNat }

/-- The state in a box that begins before given pieces. -/
def State.enter (state : State) (indent : Int) (rest : List Piece) : State :=
  if fits state.room 1 rest then { state with frames := .fitting :: state.frames }
  else
    { state with
      indent := state.indent + indent
      frames := .broken state.indent :: state.frames }

/-- The state behind the innermost box. -/
def State.leave (state : State) : State :=
  match state.frames with
  | .broken outer :: frames => { state with indent := outer, frames }
  | .fitting :: frames => { state with frames }
  | [] => state

/-- The state behind a word. -/
def State.write (state : State) (text : String) : State :=
  { state with room := state.room - text.utf8ByteSize, due := 0 }

/-- The text of pieces from a given state on. -/
def printFrom (state : State) : List Piece → List Char
  | [] => []
  | .word text :: rest =>
    List.replicate state.due ' ' ++ text.toList ++ printFrom (state.write text) rest
  | .soft blanks offset last :: rest =>
    match state.frames with
    | .fitting :: _ =>
      printFrom { state with room := state.room - blanks, due := state.due + blanks } rest
    | _ =>
      (if last.isEmpty then [] else List.replicate state.due ' ' ++ last.toList) ++
        '\n' :: printFrom (state.nextLine offset) rest
  | .line offset :: rest => '\n' :: printFrom (state.nextLine offset) rest
  | .seam :: rest => printFrom state rest
  | .boxStart indent :: rest => printFrom (state.enter indent rest) rest
  | .boxEnd :: rest => printFrom state.leave rest

/-- The text of pieces. -/
def print (pieces : List Piece) : String :=
  String.ofList (printFrom .start pieces)

end SdlCodegen.Layout
