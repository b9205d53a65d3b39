/-!
# Readers

A reader takes characters from the front of a text or fails. Alternatives are ordered and a
repetition is as long as it can be: neither is tried again when what follows fails.

A failure is reported at the furthest place where a rule of the grammar was tried and did not match.
So every outcome, failed or not, tells how far the failed rules in it reached. Readers are total:
a repetition makes at most one turn per character and a recursive rule nests at most once per
character.
-/

namespace SdlCodegen.Sdl

/-- The part of a text that is still to be read and its offset in the whole. -/
structure Cursor where
  rest : List Char
  offset : Nat

/-- What a reader gives: a value and where it ends, or nothing; and where the furthest failed rule
began. -/
structure Outcome (α : Type) where
  value : Option (α × Cursor)
  reached : Nat

/-- A function from a place in a text to what can be read there. -/
def Reader (α : Type) := Cursor → Outcome α

namespace Reader

variable {α β : Type}

/-- Read nothing. -/
def done (value : α) : Reader α := fun cursor =>
  ⟨some (value, cursor), 0⟩

/-- Match nothing. -/
def fail : Reader α := fun _ =>
  ⟨none, 0⟩

/-- Read one thing and then another that may depend on it. -/
def andThen (first : Reader α) (next : α → Reader β) : Reader β := fun cursor =>
  let outcome := first cursor
  match outcome.value with
  | none => ⟨none, outcome.reached⟩
  | some (value, after) =>
    let last := next value after
    ⟨last.value, max outcome.reached last.reached⟩

instance : Monad Reader where
  pure := done
  bind := andThen

/-- Read the first thing, or the second one if the first is not there. -/
def orElse (first second : Reader α) : Reader α := fun cursor =>
  let outcome := first cursor
  match outcome.value with
  | some _ => outcome
  | none =>
    let other := second cursor
    ⟨other.value, max outcome.reached other.reached⟩

instance : OrElse (Reader α) where
  orElse first second := first.orElse (second ())

/-- Read something if it is there. -/
def optional (reader : Reader α) : Reader (Option α) :=
  (do return some (← reader)) <|> done none

/-- Succeed without reading if the reader would fail here, and fail if it would not. -/
def absent (reader : Reader α) : Reader Unit := fun cursor =>
  match (reader cursor).value with
  | some _ => ⟨none, 0⟩
  | none => ⟨some ((), cursor), 0⟩

/-- A rule of the grammar: where it begins counts as reached if it fails. -/
def rule (reader : Reader α) : Reader α := fun cursor =>
  let outcome := reader cursor
  match outcome.value with
  | some _ => outcome
  | none => ⟨none, max outcome.reached cursor.offset⟩

/-- A scan of the characters ahead that gives a value and what it leaves, as a reader. -/
def ofScan (scan : List Char → Option (α × List Char)) : Reader α := fun cursor =>
  match scan cursor.rest with
  | none => ⟨none, 0⟩
  | some (value, rest) =>
    ⟨some (value, ⟨rest, cursor.offset + (cursor.rest.length - rest.length)⟩), 0⟩

/-- Do what a step does, on at most `turns` turns, and collect what it gives until it fails. -/
def repeatUpTo : Nat → Reader α → Reader (List α)
  | 0, _ => done []
  | turns + 1, step => fun cursor =>
    let outcome := step cursor
    match outcome.value with
    | none => ⟨some ([], cursor), outcome.reached⟩
    | some (value, after) =>
      let others := repeatUpTo turns step after
      ⟨others.value.map fun (values, last) => (value :: values, last),
        max outcome.reached others.reached⟩

/-- Read a thing as often as it is there. -/
def many (step : Reader α) : Reader (List α) := fun cursor =>
  repeatUpTo (cursor.rest.length + 1) step cursor

/-- A rule that refers to itself, down to a given depth. -/
def nestUpTo : Nat → (Reader α → Reader α) → Reader α
  | 0, _ => fail
  | depth + 1, body => fun cursor => body (fun inner => nestUpTo depth body inner) cursor

/-- A rule that refers to itself. Every level has to read a character before it goes deeper. -/
def nest (body : Reader α → Reader α) : Reader α := fun cursor =>
  nestUpTo (cursor.rest.length + 1) body cursor

/-- Succeed at the end of the text only. -/
def atEnd : Reader Unit := fun cursor =>
  match cursor.rest with
  | [] => ⟨some ((), cursor), 0⟩
  | _ :: _ => ⟨none, 0⟩

end Reader

end SdlCodegen.Sdl
