import SdlCodegen.Sdl.Definition
import SdlCodegen.Sdl.StringLiteral

/-!
# The grammar of schema documents

One reader per rule. Blanks may stand between all parts of a rule, so every part but the first is
read after `blanks`. Each rule is marked with `rule`, which makes the place of a syntax error the
furthest place where one of them was tried in vain.

Values, directives and arguments give only the numbers in them.
-/

namespace SdlCodegen.Sdl.Reader

/-- Read a number. -/
def number : Reader (List PlacedNumber) := fun cursor =>
  rule (do return [⟨cursor.offset, ← ofScan scanNumber⟩]) cursor

/-- Read a truth value. -/
def boolean : Reader Unit :=
  rule (oneWord ["true", "false"])

/-- Read the null value. -/
def null : Reader Unit :=
  rule (word "null")

/-- Read an enum value: a name that does not begin with another value. -/
def enumValue : Reader String :=
  rule do
    absent (boolean <|> null)
    name

/-- Read a name, a colon and a value. -/
def labelled (value : Reader (List PlacedNumber)) : Reader (List PlacedNumber) :=
  rule do
    let _ ← name
    blanks
    word ":"
    blanks
    value

/-- Read a list of values. -/
def listValue (value : Reader (List PlacedNumber)) : Reader (List PlacedNumber) :=
  rule do
    word "["
    blanks
    let values ← list value
    blanks
    word "]"
    return values.flatten

/-- Read an object of values. -/
def objectValue (value : Reader (List PlacedNumber)) : Reader (List PlacedNumber) :=
  rule do
    word "\x7b"
    blanks
    let fields ← list (labelled value)
    blanks
    word "\x7d"
    return fields.flatten

/-- Read a constant value. -/
def value : Reader (List PlacedNumber) :=
  nest fun inner =>
    rule (number <|> (do let _ ← string; return []) <|> (do boolean; return [])
      <|> (do null; return []) <|> (do let _ ← enumValue; return [])
      <|> listValue inner <|> objectValue inner)

/-- Read the arguments of a directive. -/
def directiveArguments : Reader (List PlacedNumber) :=
  rule do
    word "("
    blanks
    let arguments ← list1 (labelled value)
    blanks
    word ")"
    return arguments.flatten

/-- Read a directive. -/
def directive : Reader (List PlacedNumber) :=
  rule do
    word "@"
    blanks
    let _ ← name
    blanks
    return (← optional directiveArguments).getD []

/-- Read one or more directives. -/
def directives : Reader (List PlacedNumber) :=
  rule do return (← list1 directive).flatten

/-- Read directives if there are any. -/
def someDirectives : Reader (List PlacedNumber) := do
  return (← optional directives).getD []

/-- Read a default value. -/
def defaultValue : Reader (List PlacedNumber) :=
  rule do
    word "="
    blanks
    value

/-- Read the definition of an argument or of a field of an input object. -/
def inputValue : Reader (List PlacedNumber) :=
  rule do
    let _ ← optional string
    blanks
    let _ ← name
    blanks
    word ":"
    blanks
    let _ ← typeRef
    blanks
    let default := (← optional defaultValue).getD []
    blanks
    return default ++ (← someDirectives)

/-- Read the definitions of the arguments of a field or directive. -/
def arguments : Reader (List PlacedNumber) :=
  rule do
    word "("
    blanks
    let arguments ← list1 inputValue
    blanks
    word ")"
    return arguments.flatten

/-- Read the definition of a field. -/
def field : Reader (Field × List PlacedNumber) :=
  rule do
    let description ← optional string
    blanks
    let fieldName ← name
    blanks
    let argumentNumbers := (← optional arguments).getD []
    blanks
    word ":"
    blanks
    let type ← typeRef
    blanks
    let numbers ← someDirectives
    return (⟨fieldName, description, type⟩, argumentNumbers ++ numbers)

/-- Read the definitions of the fields of an object type or interface. -/
def fields : Reader (List Field × List PlacedNumber) :=
  rule do
    word "\x7b"
    blanks
    let members ← list1 field
    blanks
    word "\x7d"
    return (members.map (·.1), members.flatMap (·.2))

/-- Read the definition of a value of an enum. -/
def enumMember : Reader (EnumValue × List PlacedNumber) :=
  rule do
    let description ← optional string
    blanks
    let valueName ← enumValue
    blanks
    return (⟨valueName, description⟩, ← someDirectives)

/-- Read the definitions of the values of an enum. -/
def enumMembers : Reader (List EnumValue × List PlacedNumber) :=
  rule do
    word "\x7b"
    blanks
    let members ← list1 enumMember
    blanks
    word "\x7d"
    return (members.map (·.1), members.flatMap (·.2))

/-- Read the definitions of the fields of an input object. -/
def inputFields : Reader (List PlacedNumber) :=
  rule do
    word "\x7b"
    blanks
    let members ← list1 inputValue
    blanks
    word "\x7d"
    return members.flatten

/-- Read names with a mark between them, and possibly one in front. -/
def namesBetween (mark : String) : Reader Unit := do
  let _ ← optional (word mark)
  blanks
  let _ ← name
  blanks
  let _ ← list (do word mark; blanks; name)

/-- Read the interfaces of a type. -/
def interfaces : Reader Unit :=
  rule do
    word "implements"
    blanks
    namesBetween "&"

/-- Read the members of a union. -/
def unionMembers : Reader Unit :=
  rule do
    word "="
    blanks
    namesBetween "|"

/-- Read the word that begins an extension. -/
def extend : Reader Unit :=
  rule (word "extend")

/-- What follows the name of a type, where nothing is needed: directives, then members. -/
def details {α : Type} (members : Reader (α × List PlacedNumber)) :
    Reader (Option α × List PlacedNumber) := do
  let numbers ← someDirectives
  blanks
  match ← optional members with
  | some (found, more) => return (some found, numbers ++ more)
  | none => return (none, numbers)

/-- What follows the name in an extension, where one part is needed: directives or members. -/
def extensionDetails {α : Type} (members : Reader (α × List PlacedNumber)) :
    Reader (Option α × List PlacedNumber) :=
  (do
    let numbers ← someDirectives
    blanks
    let (found, more) ← members
    return (some found, numbers ++ more))
  <|> (do return (none, ← directives))

/-- Read the definition or the extension of a type of one kind, given the word for the kind, what
follows the name in either, and the type that it makes. -/
def typeOf {α : Type} (kind : String) (inDefinition inExtension : Reader (α × List PlacedNumber))
    (body : α → TypeBody) : Reader Clause :=
  rule ((do
      let description ← optional string
      blanks
      word kind
      blanks
      let typeName ← name
      blanks
      let (members, numbers) ← inDefinition
      return ⟨.type ⟨typeName, description, body members⟩, numbers⟩)
    <|> (do
      extend
      blanks
      word kind
      blanks
      let typeName ← name
      blanks
      let (members, numbers) ← inExtension
      return ⟨.extension ⟨typeName, none, body members⟩, numbers⟩))

/-- Read members of which only the numbers are kept. -/
def unkept (members : Reader (List PlacedNumber)) : Reader (Unit × List PlacedNumber) := do
  return ((), ← members)

/-- Read a scalar. -/
def scalarType : Reader Clause :=
  typeOf "scalar" (unkept someDirectives) (unkept directives) fun _ => .scalar

/-- Read an object type. -/
def objectType : Reader Clause :=
  typeOf "type"
    (do
      let _ ← optional interfaces
      blanks
      details fields)
    ((do
      let _ ← optional interfaces
      blanks
      extensionDetails fields)
    <|> (do
      interfaces
      return (none, [])))
    fun members => .object (members.getD [])

/-- Read an interface. -/
def interfaceType : Reader Clause :=
  typeOf "interface"
    (do
      let _ ← optional interfaces
      blanks
      details fields)
    (do
      let _ ← optional interfaces
      blanks
      extensionDetails fields)
    fun _ => .bare .interface

/-- Read a union. -/
def unionType : Reader Clause :=
  let members := do
    unionMembers
    return ((), [])
  typeOf "union" (details members) (extensionDetails members) fun _ => .bare .union

/-- Read an enum. -/
def enumType : Reader Clause :=
  typeOf "enum" (details enumMembers) (extensionDetails enumMembers)
    fun members => .enum (members.getD [])

/-- Read an input object. -/
def inputObjectType : Reader Clause :=
  typeOf "input" (details (unkept inputFields)) (extensionDetails (unkept inputFields))
    fun _ => .bare .inputObject

/-- Read the definition or the extension of a type. -/
def typeDefinition : Reader Clause :=
  rule (scalarType <|> objectType <|> interfaceType <|> unionType <|> enumType <|> inputObjectType)

/-- Read a root operation. -/
def operation : Reader Operation :=
  rule ((do word "query"; return .query) <|> (do word "mutation"; return .mutation)
    <|> (do word "subscription"; return .subscription))

/-- Read a root operation and its type. -/
def root : Reader (Operation × String) :=
  rule do
    let role ← operation
    blanks
    word ":"
    blanks
    return (role, ← name)

/-- Read directives if there are any and root operations in braces. -/
def roots : Reader (List (Operation × String) × List PlacedNumber) := do
  let numbers ← someDirectives
  blanks
  word "\x7b"
  blanks
  let found ← list1 root
  blanks
  word "\x7d"
  return (found, numbers)

/-- Read the definition or the extension of a schema. -/
def schemaDefinition : Reader Clause :=
  rule ((do
      word "schema"
      blanks
      let (found, numbers) ← roots
      return ⟨.schema false found, numbers⟩)
    <|> (do
      extend
      blanks
      word "schema"
      blanks
      let (found, numbers) ← roots <|> (do return ([], ← directives))
      return ⟨.schema true found, numbers⟩))

/-- Read a place where a directive may stand. Of two words, the longer one comes first. -/
def directiveLocation : Reader Unit :=
  rule (oneWord ["QUERY", "MUTATION", "SUBSCRIPTION", "FIELD_DEFINITION", "FIELD",
    "FRAGMENT_DEFINITION", "FRAGMENT_SPREAD", "INLINE_FRAGMENT", "VARIABLE_DEFINITION", "SCHEMA",
    "SCALAR", "OBJECT", "ARGUMENT_DEFINITION", "INTERFACE", "UNION", "ENUM_VALUE", "ENUM",
    "INPUT_OBJECT", "INPUT_FIELD_DEFINITION"])

/-- Read the places where a directive may stand. -/
def directiveLocations : Reader Unit :=
  rule do
    let _ ← optional (word "|")
    blanks
    directiveLocation
    blanks
    let _ ← list (do word "|"; blanks; directiveLocation)

/-- Read the definition of a directive. -/
def directiveDefinition : Reader Clause :=
  rule do
    let _ ← optional string
    blanks
    word "directive"
    blanks
    word "@"
    blanks
    let _ ← name
    blanks
    let numbers := (← optional arguments).getD []
    blanks
    let _ ← optional (word "repeatable")
    blanks
    word "on"
    blanks
    directiveLocations
    return ⟨.directive, numbers⟩

/-- Read a definition of a schema document. -/
def definition : Reader Clause :=
  rule (schemaDefinition <|> typeDefinition <|> directiveDefinition)

/-- Read a schema document: one or more definitions and the end of the text. -/
def document : Reader (List Clause) :=
  rule do
    blanks
    let clauses ← list1 definition
    blanks
    rule atEnd
    return clauses

end SdlCodegen.Sdl.Reader
