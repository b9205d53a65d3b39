import SdlCodegen.Sdl.Grammar

/-!
# Reading schema documents

A text is read as a whole by the grammar. Only then its definitions are checked one by one, so a
syntax error anywhere comes before every other fault.
-/

namespace SdlCodegen.Sdl

/-- Match a text with the grammar. -/
def clausesOf (text : List Char) : Except DocumentError (List Clause) :=
  let outcome := Reader.document ⟨text, 0⟩
  match outcome.value with
  | some (clauses, _) => .ok clauses
  | none => .error (.unreadable (Position.ofOffset text outcome.reached))

/-- The definitions of a schema document. -/
def definitionsOf (text : String) : Except DocumentError (List Definition) := do
  let clauses ← clausesOf text.toList
  clauses.mapM (·.check text.toList)

end SdlCodegen.Sdl
