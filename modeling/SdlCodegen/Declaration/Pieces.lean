import SdlCodegen.Declaration.Basic
import SdlCodegen.DocComment
import SdlCodegen.Layout

/-!
# Printing declarations

A declaration becomes a sequence of pieces for the layout, unless a name in it is no identifier or a
type expression cannot be read back. Members are checked in order, each name before its type, and
the name of a struct or enum is checked last. The names of a stub come before its type.
-/

namespace SdlCodegen

open Layout (Piece boxIndent)

/-- The pieces of a type expression. -/
def TypeExpr.pieces : TypeExpr → List Piece
  | name ident => [.word ident]
  | generic head argument =>
    [.word head, .word "<", .boxStart boxIndent, .soft 0 0 ""] ++ argument.pieces ++
      [.soft 0 (-boxIndent) ",", .boxEnd, .word ">"]

/-- The comment lines for a description. -/
def docPieces (comment : Option String) : List Piece :=
  (docLines comment).flatMap fun line => [.word line, .line 0]

/-- A block in braces behind a head, one member per line; without members the braces are empty. -/
def blockPieces (head : List Piece) (members : List (List Piece)) : List Piece :=
  match members.getLast? with
  | none => [.boxStart boxIndent] ++ head ++ [.word "\x7b", .boxEnd, .word "\x7d"]
  | some last =>
    [.boxStart boxIndent] ++ head ++ [.word "\x7b", .line 0] ++
      members.dropLast.flatMap (· ++ [.line 0]) ++ last ++ [.line (-boxIndent)] ++
      [.boxEnd, .word "\x7d"]

/-- An attribute on a line of its own. -/
def attributePieces (text : String) : List Piece :=
  [.word text, .soft 1 0 ""]

/-- A member of a block: its comment, then its pieces and a comma. -/
def memberPieces (comment : Option String) (pieces : List Piece) : List Piece :=
  docPieces comment ++ pieces ++ [.word ","]

/-- The pieces of a scalar. -/
def scalarPieces (name : String) (comment : Option String) : List Piece :=
  docPieces comment ++
    [.boxStart boxIndent, .word "pub struct ", .word name, .word "(", .soft 0 0 "", .word "String",
      .soft 0 (-boxIndent) ",", .word ")", .word ";", .boxEnd, .line 0]

/-- The pieces of a struct whose fields have been checked. -/
def objectPieces (name : String) (comment : Option String)
    (fields : List (FieldDeclaration × TypeExpr)) : List Piece :=
  docPieces comment ++ attributePieces "#[derive(SimpleObject)]" ++
    blockPieces [.word "pub struct ", .word name, .word " "]
      (fields.map fun (field, type) =>
        memberPieces field.comment ([.word field.ident, .word ": "] ++ type.pieces)) ++
    [.line 0]

/-- The pieces of an enum. -/
def enumPieces (name : String) (comment : Option String) (variants : List VariantDeclaration) :
    List Piece :=
  docPieces comment ++
    blockPieces [.word "pub enum ", .word name, .word " "]
      (variants.map fun variant => memberPieces variant.comment [.word variant.ident]) ++
    [.line 0]

/-- The pieces of the signature and body of the method of a stub. -/
def methodPieces (method : String) (result : TypeExpr) : List Piece :=
  [.boxStart boxIndent, .word "pub async fn ", .word method, .word "(", .seam,
    .boxStart 0, .soft 0 0 "", .word "&self", .word ",", .soft 1 0 "", .word "_ctx: &Context",
    .word "<", .boxStart boxIndent, .soft 0 0 "", .word "'_", .soft 0 (-boxIndent) ",", .boxEnd,
    .word ">", .soft 0 (-boxIndent) ",", .boxEnd, .word ")",
    .boxStart (-boxIndent), .word " -> "] ++
    (TypeExpr.generic "Result" result).pieces ++
    [.boxEnd, .word " \x7b", .line 0, .word "unimplemented!()", .line (-boxIndent), .boxEnd,
      .word "\x7d"]

/-- The pieces of the stub that belongs to the type `name`. -/
def queryPieces (name method : String) (result : TypeExpr) (comment : Option String) : List Piece :=
  attributePieces "#[derive(Default)]" ++
    [.boxStart boxIndent, .word "pub struct ", .word name, .word ";", .boxEnd, .line 0] ++
    attributePieces "#[Object]" ++
    blockPieces [.word "impl ", .word name, .word " "]
      [docPieces comment ++ methodPieces method result] ++
    [.line 0]

/-- Check that a name is an identifier. -/
def checkIdentifier (name : String) : Except GenerateError Unit :=
  if Identifier.isValid name then .ok () else .error (.invalidIdentifier name)

/-- Read a type expression back from its text. -/
def checkType (owner field : String) (expression : TypeExpr) : Except GenerateError TypeExpr :=
  match TypeExpr.read? expression.text with
  | some type => .ok type
  | none => .error (.invalidTypeExpression owner field expression)

/-- Check a field of the struct `owner`. -/
def FieldDeclaration.check (owner : String) (field : FieldDeclaration) :
    Except GenerateError (FieldDeclaration × TypeExpr) := do
  checkIdentifier field.ident
  return (field, ← checkType owner field.ident field.type)

namespace Declaration

/-- The name of the struct that the stub for a field of the query root belongs to. -/
def queryStruct (field : String) : String :=
  field ++ "Query"

/-- The pieces of a declaration. -/
def pieces : Declaration → Except GenerateError (List Piece)
  | scalar name comment => do
    checkIdentifier name
    return scalarPieces name comment
  | object name comment fields => do
    let checked ← fields.mapM (·.check name)
    checkIdentifier name
    return objectPieces name comment checked
  | enum name comment variants => do
    variants.forM fun variant => checkIdentifier variant.ident
    checkIdentifier name
    return enumPieces name comment variants
  | query field method result comment => do
    checkIdentifier (queryStruct field)
    checkIdentifier method
    let type ← checkType (queryStruct field) field result
    return queryPieces (queryStruct field) method type comment

end Declaration

end SdlCodegen
