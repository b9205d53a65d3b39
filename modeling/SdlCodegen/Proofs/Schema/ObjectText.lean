import SdlCodegen.Proofs.Schema.WellNamed
import SdlCodegen.Proofs.Sdl.SingleDefinition

/-!
# Object types written and read back

An object type is written with its fields in braces, and reading that text as a schema gives the
type back, fields, references and order alike. So the notation of a reference says all there is to
say about it, as long as it can be written at all; and references in the graph of texts always can.

Descriptions, arguments and directives are not written, and a single blank stands
wherever one is needed.
-/

namespace SdlCodegen

/-- The text of an object type with given fields. -/
def objectText (name : String) (fields : List (String × TypeRef)) : String :=
  "type " ++ name ++ " \x7b " ++
    String.intercalate " " (fields.map fun field => field.1 ++ ": " ++ field.2.text) ++ " \x7d"

/-- An object type with given fields and no descriptions. -/
def plainObject (name : String) (fields : List (String × TypeRef)) : NamedType :=
  ⟨name, none, .object (fields.map fun field => ⟨field.1, none, field.2⟩)⟩

namespace Sdl

/-- The characters of a field and the blank behind it. -/
def fieldChars (field : String × TypeRef) : List Char :=
  field.1.toList ++ ':' :: ' ' :: (field.2.text.toList ++ [' '])

/-- The characters of an object type from the opening brace on. -/
def bracedChars (fields : List (String × TypeRef)) : List Char :=
  '\x7b' :: ' ' :: (fields.flatMap fieldChars ++ ['\x7d'])

/-- The characters of an object type. -/
def objectChars (name : String) (fields : List (String × TypeRef)) : List Char :=
  "type".toList ++ ' ' :: (name.toList ++ ' ' :: bracedChars fields)

/-- A separator between texts and behind the last one is one behind each. -/
theorem intercalate_append_self {α : Type} (separator : List α) {texts : List (List α)}
    (h : texts ≠ []) :
    separator.intercalate texts ++ separator = texts.flatMap (· ++ separator) := by
  induction texts with
  | nil => exact absurd rfl h
  | cons text texts ih =>
    cases texts with
    | nil => simp
    | cons next texts =>
      rw [List.intercalate_cons_cons, List.append_assoc, ih (by simp)]
      rfl

/-- The text of an object type with fields, part by part. -/
theorem toList_objectText (name : String) {fields : List (String × TypeRef)} (h : fields ≠ []) :
    (objectText name fields).toList = objectChars name fields := by
  have hfields : [' '].intercalate
      (fields.map fun field => (field.1 ++ ": " ++ field.2.text).toList) ++ [' '] =
        fields.flatMap fieldChars := by
    rw [intercalate_append_self [' '] (by simpa using h), List.flatMap_map]
    exact congrArg (fields.flatMap ·) (funext fun field => by simp [fieldChars])
  change _ = "type".toList ++ ' ' :: (name.toList ++ ' ' :: bracedChars fields)
  simp only [objectText, bracedChars, String.toList_append, String.toList_intercalate, List.map_map,
    Function.comp_def, ← hfields]
  simp

/-- The notation of a reference begins plainly. -/
theorem beginsPlain_typeRef {type : TypeRef} (h : type.isWritable) (rest : List Char) :
    BeginsPlain (type.text.toList ++ rest) := by
  induction type generalizing rest with
  | named name => exact beginsPlain_name h rest
  | list element ih =>
    have hchars : (TypeRef.list element).text.toList ++ rest =
        '[' :: (element.text.toList ++ ']' :: rest) := by
      simp [TypeRef.text]
    rw [hchars]
    exact beginsPlain_cons (by decide) _
  | nonNull inner ih =>
    simp only [TypeRef.isWritable, Bool.and_eq_true] at h
    rw [TypeRef.text, String.toList_append, List.append_assoc]
    exact ih h.2 _

/-- The fields of an object type with the closing brace begin plainly. -/
theorem beginsPlain_fields {fields : List (String × TypeRef)} (h : ∀ field ∈ fields, isName field.1)
    (rest : List Char) : BeginsPlain (fields.flatMap fieldChars ++ '\x7d' :: rest) := by
  cases fields with
  | nil => exact beginsPlain_cons (by decide) rest
  | cons field fields =>
    rw [List.flatMap_cons, fieldChars, List.append_assoc, List.append_assoc]
    exact beginsPlain_name (h field List.mem_cons_self) _

namespace Reader

variable {cs : List Char}

/-- The reader of fields takes a field as it is written. -/
theorem takes_field {field : String × TypeRef} (hname : isName field.1) (htype : field.2.isWritable)
    (hrest : BeginsPlain cs) :
    Reader.field.Takes (fieldChars field ++ cs) (⟨field.1, none, field.2⟩, []) cs := by
  have hchars : fieldChars field ++ cs =
      field.1.toList ++ ':' :: ' ' :: (field.2.text.toList ++ ' ' :: cs) := by
    simp [fieldChars]
  have hplain := beginsPlain_name hname (':' :: ' ' :: (field.2.text.toList ++ ' ' :: cs))
  have hcolon : BeginsPlain (':' :: ' ' :: (field.2.text.toList ++ ' ' :: cs)) :=
    beginsPlain_cons (by decide) _
  -- with the colon next there are no arguments
  have harguments : arguments.Refuses (':' :: ' ' :: (field.2.text.toList ++ ' ' :: cs)) :=
    Refuses.rule (Refuses.bind (refuses_word rfl))
  rw [hchars]
  apply Takes.rule
  refine (refuses_string hplain).optional.bind ?_
  refine (takes_no_blanks hplain).bind ?_
  refine (takes_name hname (endsName_cons rfl _)).bind ?_
  refine (takes_no_blanks hcolon).bind ?_
  refine harguments.optional.bind ?_
  refine (takes_no_blanks hcolon).bind ?_
  refine (takes_word ":" _).bind ?_
  refine (takes_blank (beginsPlain_typeRef htype _)).bind ?_
  refine (takes_typeRef htype (endsName_cons rfl _) (by simp)).bind ?_
  refine (takes_blank hrest).bind ?_
  exact (takes_no_directives hrest).bind Takes.pure

/-- A closing brace is no field. -/
theorem refuses_field_brace (rest : List Char) : Reader.field.Refuses ('\x7d' :: rest) := by
  have hplain : BeginsPlain ('\x7d' :: rest) := beginsPlain_cons (by decide) rest
  have hname : name.Refuses ('\x7d' :: rest) := Refuses.rule (Refuses.ofScan rfl)
  apply Refuses.rule
  refine (refuses_string hplain).optional.bind_refuses ?_
  exact (takes_no_blanks hplain).bind_refuses (Refuses.bind hname)

/-- Fields are taken one by one up to the closing brace. -/
theorem takesAll_fields {fields : List (String × TypeRef)}
    (h : ∀ field ∈ fields, isName field.1 ∧ field.2.isWritable) (rest : List Char) :
    TakesAll (do let value ← Reader.field; blanks; return value)
      (fields.flatMap fieldChars ++ '\x7d' :: rest)
      (fields.map fun field => (⟨field.1, none, field.2⟩, [])) ('\x7d' :: rest) := by
  induction fields with
  | nil => exact .nil (Refuses.bind (refuses_field_brace rest))
  | cons field fields ih =>
    obtain ⟨hfield, hfields⟩ := List.forall_mem_cons.mp h
    have hplain : BeginsPlain (fields.flatMap fieldChars ++ '\x7d' :: rest) :=
      beginsPlain_fields (fun other hother => (hfields other hother).1) rest
    rw [List.flatMap_cons, List.append_assoc, List.map_cons]
    refine .cons ((takes_field hfield.1 hfield.2 hplain).bind ?_) ?_ (ih hfields)
    · exact (takes_no_blanks hplain).bind Takes.pure
    · simp only [fieldChars, List.length_append, List.length_cons]
      omega

/-- The reader of braced fields takes them as they are written. -/
theorem takes_fields {fields : List (String × TypeRef)} (hsome : fields ≠ [])
    (h : ∀ field ∈ fields, isName field.1 ∧ field.2.isWritable) :
    Reader.fields.Takes (bracedChars fields)
      (fields.map fun field => ⟨field.1, none, field.2⟩, []) [] := by
  obtain ⟨field, others, rfl⟩ := List.exists_cons_of_ne_nil hsome
  obtain ⟨hfield, hothers⟩ := List.forall_mem_cons.mp h
  have hplain : BeginsPlain (others.flatMap fieldChars ++ ['\x7d']) :=
    beginsPlain_fields (fun other hother => (hothers other hother).1) []
  have hbrace : BeginsPlain ['\x7d'] := beginsPlain_cons (by decide) []
  have hmembers : (list1 Reader.field).Takes ((field :: others).flatMap fieldChars ++ ['\x7d'])
      ((field :: others).map fun field => (⟨field.1, none, field.2⟩, [])) ['\x7d'] := by
    rw [List.flatMap_cons, List.append_assoc]
    refine (takes_field hfield.1 hfield.2 hplain).bind ?_
    refine (takes_no_blanks hplain).bind ?_
    exact (takesAll_fields hothers []).many.bind Takes.pure
  have hinner : BeginsPlain ((field :: others).flatMap fieldChars ++ ['\x7d']) :=
    beginsPlain_fields (fun other hother => (h other hother).1) []
  apply Takes.rule
  refine (takes_word "\x7b" _).bind ?_
  refine (takes_blank hinner).bind ?_
  refine hmembers.bind ?_
  refine (takes_no_blanks hbrace).bind ?_
  refine (takes_word "\x7d" []).bind ?_
  have hnumbers : (((field :: others).map fun field =>
      ((⟨field.1, none, field.2⟩ : Field), ([] : List PlacedNumber))).flatMap (·.2)) = [] := by
    rw [List.flatMap_map]
    exact List.flatMap_eq_nil_iff.mpr fun _ _ => rfl
  rw [List.map_map, hnumbers]
  exact Takes.pure

/-- The reader of object types takes the text of one. -/
theorem takes_objectType {name : String} {fields : List (String × TypeRef)} (hname : isName name)
    (hsome : fields ≠ []) (h : ∀ field ∈ fields, isName field.1 ∧ field.2.isWritable) :
    objectType.Takes (objectChars name fields) ⟨.type (plainObject name fields), []⟩ [] := by
  have htype : BeginsPlain (objectChars name fields) := beginsPlain_cons (by decide) _
  have hbrace : BeginsPlain (bracedChars fields) := beginsPlain_cons (by decide) _
  -- with the brace next no interfaces are implemented
  have hinterfaces : interfaces.Refuses (bracedChars fields) :=
    Refuses.rule (Refuses.bind (refuses_word rfl))
  have hdetails : (details Reader.fields).Takes (bracedChars fields)
      (some (fields.map fun field => ⟨field.1, none, field.2⟩), []) [] := by
    refine (takes_no_directives hbrace).bind ?_
    refine (takes_no_blanks hbrace).bind ?_
    exact (takes_fields hsome h).optional.bind Takes.pure
  have hbody : (do
      let _ ← optional interfaces
      blanks
      details Reader.fields : Reader (Option (List Field) × List PlacedNumber)).Takes
        (bracedChars fields)
      (some (fields.map fun field => ⟨field.1, none, field.2⟩), []) [] :=
    hinterfaces.optional.bind ((takes_no_blanks hbrace).bind hdetails)
  apply Takes.rule
  apply Takes.orElse
  refine (refuses_string htype).optional.bind ?_
  refine (takes_no_blanks htype).bind ?_
  refine (takes_word "type" _).bind ?_
  refine (takes_blank (beginsPlain_name hname _)).bind ?_
  refine (takes_name hname (endsName_cons rfl _)).bind ?_
  refine (takes_blank hbrace).bind ?_
  exact hbody.bind Takes.pure

/-- The reader of definitions takes the text of an object type. -/
theorem takes_definition_object {name : String} {fields : List (String × TypeRef)}
    (hname : isName name) (hsome : fields ≠ [])
    (h : ∀ field ∈ fields, isName field.1 ∧ field.2.isWritable) :
    definition.Takes (objectChars name fields) ⟨.type (plainObject name fields), []⟩ [] := by
  have htype : BeginsPlain (objectChars name fields) := beginsPlain_cons (by decide) _
  have hschema : schemaDefinition.Refuses (objectChars name fields) :=
    refuses_schemaDefinition rfl rfl
  have hscalar : scalarType.Refuses (objectChars name fields) := refuses_typeOf htype rfl rfl
  exact Takes.rule <| hschema.orElse_takes <| Takes.orElse <| Takes.rule <| hscalar.orElse_takes <|
    (takes_objectType hname hsome h).orElse

end Reader

/-- The text of an object type is a document with this type as its only definition. -/
theorem definitionsOf_objectText {name : String} {fields : List (String × TypeRef)}
    (hname : isName name) (hsome : fields ≠ [])
    (h : ∀ field ∈ fields, isName field.1 ∧ field.2.isWritable) :
    definitionsOf (objectText name fields) = .ok [.type (plainObject name fields)] := by
  have hchars := toList_objectText name hsome
  apply definitionsOf_of_takes
  · rw [hchars]
    exact beginsPlain_cons (by decide) _
  · rw [hchars]
    exact Reader.takes_definition_object hname hsome h
  · rfl

end Sdl

namespace TypeGraph

/-- The graph of the text of an object type has this type only. -/
theorem result_ofTexts_objectText {name : String} {fields : List (String × TypeRef)}
    (hname : Sdl.isName name) (hsome : fields ≠ [])
    (h : ∀ field ∈ fields, Sdl.isName field.1 ∧ field.2.isWritable) :
    (ofTexts [objectText name fields]).result = .ok ⟨[plainObject name fields], none⟩ := by
  have hread : [objectText name fields].mapM Sdl.definitionsOf =
      .ok [[.type (plainObject name fields)]] := by
    rw [List.mapM_cons, Sdl.definitionsOf_objectText hname hsome h]
    rfl
  have hparts :
      SchemaParts.ofDefinitions [[Sdl.Definition.type (plainObject name fields)]].flatten =
      ⟨[plainObject name fields], [], none⟩ := rfl
  rw [result_ofTexts hread, hparts]
  refine assemble_eq_ok.mpr ⟨⟨List.nodup_singleton _, by simp, by simp⟩, ?_⟩
  rw [List.map_singleton, NamedType.mergedWith_nil]

/-- The text of an object type makes a graph with this type only, its fields as they were written,
for all names and all references that can be written. Every field in the graph of any texts is of
this kind: its name and the name at the leaf of its reference are names, no non-null wrapper stands
directly under another, its notation is read back to its end, and an object type with the fields of
its type is read back too. -/
theorem references_survive_text :
    (∀ (name : String) (fields : List (String × TypeRef)), Sdl.isName name → fields ≠ [] →
      (∀ field ∈ fields, Sdl.isName field.1 ∧ field.2.isWritable) →
      (ofTexts [objectText name fields]).result =
        .ok ⟨[⟨name, none, .object (fields.map fun field => ⟨field.1, none, field.2⟩)⟩], none⟩) ∧
    ∀ (texts : List String) (graph : TypeGraph), (ofTexts texts).result = .ok graph →
      ∀ type ∈ graph.types, ∀ field ∈ type.fields,
        Sdl.isName field.type.leaf ∧ field.type.isWritable ∧
        Sdl.scanType field.type.text.toList = some (field.type, []) ∧
        (ofTexts
          [objectText type.name (type.fields.map fun field => (field.name, field.type))]).result =
          .ok ⟨[⟨type.name, none,
            .object (type.fields.map fun field => ⟨field.name, none, field.type⟩)⟩], none⟩ := by
  constructor
  · intro name fields hname hsome h
    exact result_ofTexts_objectText hname hsome h
  · intro texts graph hgraph type htype field hfield
    have hnamed : type.WellNamed := wellNamed_of_ofTexts hgraph type htype
    have hwritable : field.type.isWritable := (hnamed.body.fields field hfield).type
    have hends : Sdl.EndsName [] := by simp [Sdl.EndsName]
    have hscan : Sdl.scanType field.type.text.toList = some (field.type, []) := by
      simpa using Sdl.scanType_text_append hwritable hends (by simp)
    refine ⟨TypeRef.isName_leaf hwritable, hwritable, hscan, ?_⟩
    have hwritten : ∀ other ∈ type.fields.map fun field => (field.name, field.type),
        Sdl.isName other.1 ∧ other.2.isWritable := by
      intro other hother
      obtain ⟨source, hsource, rfl⟩ := List.mem_map.mp hother
      exact ⟨(hnamed.body.fields source hsource).name, (hnamed.body.fields source hsource).type⟩
    have hsome : type.fields.map (fun field => (field.name, field.type)) ≠ [] :=
      List.ne_nil_of_mem (List.mem_map_of_mem hfield)
    rw [result_ofTexts_objectText hnamed.name hsome hwritten, plainObject, List.map_map]
    rfl

/-- Nested lists and a field that is called like a keyword are read back. -/
theorem references_survive_text_nested :
    objectText "T" [("a", .nonNull (.list (.nonNull (.named "Int")))),
        ("type", .list (.list (.named "T")))] = "type T \x7b a: [Int!]! type: [[T]] \x7d" ∧
    (ofTexts ["type T \x7b a: [Int!]! type: [[T]] \x7d"]).result =
      .ok ⟨[⟨"T", none, .object [⟨"a", none, .nonNull (.list (.nonNull (.named "Int")))⟩,
        ⟨"type", none, .list (.list (.named "T"))⟩]⟩], none⟩ := by
  have htext : objectText "T" [("a", .nonNull (.list (.nonNull (.named "Int")))),
      ("type", .list (.list (.named "T")))] = "type T \x7b a: [Int!]! type: [[T]] \x7d" := by
    decide +kernel
  refine ⟨htext, ?_⟩
  rw [← htext]
  exact references_survive_text.1 "T" _ (by decide) (by simp) (by decide)

end TypeGraph

end SdlCodegen
