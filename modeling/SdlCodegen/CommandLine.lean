import SdlCodegen.Generate

/-!
# The command line

Arguments are inputs and options, in any order; behind `--` all are inputs. An option takes its
value from the same argument or from the next one. A value from the next argument is looked at only
when another option, an input or the end follows. So an unknown option, or a value for a flag, wins
over a bad or missing value just before it.
-/

namespace SdlCodegen

/-- What the command line asks for. -/
structure Arguments where
  inputs : List String
  output : Option String
  queryType : Option String
  options : GenerateOptions
  deriving DecidableEq, Repr

/-- Why the command line asks for no generation. -/
inductive Stop where
  | help
  | version
  | missingInput
  | invalidValue
  | unknownOption
  | repeatedOption
  | unexpectedValue
  deriving DecidableEq, Repr

namespace CommandLine

/-- The options with a value. -/
inductive ValueOption where
  | output
  | queryType
  | unsupportedKinds
  deriving DecidableEq, Repr

/-- The options without a value. -/
inductive Flag where
  | prelude
  | help
  | version
  deriving DecidableEq, Repr

/-- One argument by its form. -/
inductive Argument where
  | plain (text : String)
  | separator
  | option (option : ValueOption) (attached : Option String)
  | flag (flag : Flag) (attached : Option String)
  | unknown
  deriving DecidableEq, Repr

/-- Cut a long option at its first equals sign. -/
def cutAtEquals (body : List Char) : String × Option String :=
  let name := String.ofList (body.takeWhile (· != '='))
  match body.dropWhile (· != '=') with
  | [] => (name, none)
  | _ :: value => (name, some (String.ofList value))

/-- The value that stands behind the letter of an option; one equals sign before it is dropped. -/
def shortValue : List Char → Option String
  | [] => none
  | '=' :: value => some (String.ofList value)
  | value => some (String.ofList value)

/-- The form of an argument with two dashes in front. -/
def Argument.ofLong (body : List Char) : Argument :=
  let (name, attached) := cutAtEquals body
  match name with
  | "output" => .option .output attached
  | "query-type" => .option .queryType attached
  | "unsupported-kinds" => .option .unsupportedKinds attached
  | "prelude" => .flag .prelude attached
  | "help" => .flag .help attached
  | "version" => .flag .version attached
  | _ => .unknown

/-- The form of an argument with one dash in front. -/
def Argument.ofShort (letter : Char) (body : List Char) : Argument :=
  match letter with
  | 'o' => .option .output (shortValue body)
  | 'h' => .flag .help none
  | 'V' => .flag .version none
  | _ => .unknown

/-- The form of an argument. -/
def Argument.ofString (text : String) : Argument :=
  match text.toList with
  | ['-', '-'] => .separator
  | '-' :: '-' :: body => .ofLong body
  | '-' :: letter :: body => .ofShort letter body
  | _ => .plain text

/-- A command line that is partly read. The open option waits for its value or, with one, for being
looked at. -/
structure Draft where
  inputs : List String
  output : Option String
  queryType : Option String
  unsupported : Option UnsupportedAction
  prelude : Bool
  pending : Option (ValueOption × Option String)
  deriving DecidableEq, Repr

/-- The command line before the first argument. -/
def Draft.empty : Draft := ⟨[], none, none, none, false, none⟩

/-- The action that a word stands for. -/
def unsupportedAction? : String → Option UnsupportedAction
  | "deny" => some .deny
  | "warn" => some .warn
  | _ => none

namespace Draft

/-- Set an option that is not set yet. -/
def set (draft : Draft) (option : ValueOption) (value : String) : Except Stop Draft :=
  match option with
  | .output =>
    if draft.output.isSome then .error .repeatedOption
    else if value.isEmpty then .error .invalidValue
    else .ok { draft with output := some value }
  | .queryType =>
    if draft.queryType.isSome then .error .repeatedOption
    else .ok { draft with queryType := some value }
  | .unsupportedKinds =>
    if draft.unsupported.isSome then .error .repeatedOption
    else match unsupportedAction? value with
      | some action => .ok { draft with unsupported := some action }
      | none => .error .invalidValue

/-- Set the open option, which needs a value. -/
def settle (draft : Draft) : Except Stop Draft :=
  match draft.pending with
  | none => .ok draft
  | some (_, none) => .error .invalidValue
  | some (option, some value) => { draft with pending := none }.set option value

/-- Take in an input. -/
def addInput (draft : Draft) (input : String) : Except Stop Draft := do
  let draft ← draft.settle
  return { draft with inputs := draft.inputs ++ [input] }

/-- Take in a flag without a value. -/
def setFlag (draft : Draft) (flag : Flag) : Except Stop Draft := do
  let draft ← draft.settle
  match flag with
  | .help => .error .help
  | .version => .error .version
  | .prelude => if draft.prelude then .error .repeatedOption else .ok { draft with prelude := true }

/-- Take in an argument in front of the separator. -/
def add (draft : Draft) (argument : Argument) : Except Stop Draft :=
  match argument with
  | .plain text =>
    match draft.pending with
    | some (option, none) => .ok { draft with pending := some (option, some text) }
    | _ => draft.addInput text
  | .separator => .ok draft
  | .option option (some value) => do (← draft.settle).set option value
  | .option option none => do return { ← draft.settle with pending := some (option, none) }
  | .flag _ (some _) => .error .unexpectedValue
  | .flag flag none => draft.setFlag flag
  | .unknown => .error .unknownOption

/-- Take in all arguments. -/
def addAll (draft : Draft) : List String → Except Stop Draft
  | [] => .ok draft
  | text :: rest =>
    match Argument.ofString text with
    | .separator => rest.foldlM addInput draft
    | argument => do (← draft.add argument).addAll rest

/-- What the whole command line asks for. -/
def finish (draft : Draft) : Except Stop Arguments := do
  let draft ← draft.settle
  if draft.inputs.isEmpty then .error .missingInput
  else
    return ⟨draft.inputs, draft.output, draft.queryType,
      ⟨draft.unsupported.getD .deny, draft.prelude⟩⟩

end Draft

/-- Read a command line. -/
def parse (arguments : List String) : Except Stop Arguments := do
  (← Draft.empty.addAll arguments).finish

end CommandLine

end SdlCodegen
