import SdlCodegen.Proofs.Sdl.Notation
import SdlCodegen.Sdl.Document

/-!
# Documents of one definition

What readers take in front of a text that begins with no blank, no comment, no description and no
directive: none of those, and no definition of a kind whose word does not stand there. A text that
is taken as a definition up to its end is a document with this definition only.
-/

namespace SdlCodegen.Sdl

/-- A text goes on with no blank and with nothing that may stand between the parts of a
definition. -/
def BeginsPlain (cs : List Char) : Prop :=
  ∀ c ∈ cs.head?, isSpace c = false ∧ c ∉ ['#', '"', '@']

/-- Whether a text is such a one shows in its first character. -/
theorem beginsPlain_cons {c : Char} (h : isSpace c = false ∧ c ∉ ['#', '"', '@'])
    (rest : List Char) :
    BeginsPlain (c :: rest) := by
  intro _ hc
  cases hc
  exact h

/-- No blank is there to be skipped. -/
theorem skipBlanks_eq_self {cs : List Char} (h : BeginsPlain cs) : skipBlanks false cs = cs := by
  cases cs with
  | nil => rfl
  | cons c tail =>
    obtain ⟨hspace, hmarks⟩ := h c rfl
    have hcomment : c ≠ '#' := fun heq => hmarks (by simp [heq])
    rw [skipBlanks, if_neg (by simp [hspace]), if_neg hcomment]

/-- A name is such a text. -/
theorem beginsPlain_name {name : String} (h : isName name) (rest : List Char) :
    BeginsPlain (name.toList ++ rest) := by
  obtain ⟨c, tail, hchars, hstart, -⟩ := exists_cons_of_isName h
  have hne : ∀ other : Char, isNameStart other = false → c ≠ other := by
    intro other hother heq
    exact absurd hstart (by simp [heq, hother])
  rw [hchars, List.cons_append]
  refine beginsPlain_cons ⟨?_, ?_⟩ _
  · simp [isSpace, isLineEnd, hne ' ' rfl, hne ',' rfl, hne '\t' rfl, hne '\ufeff' rfl,
      hne '\n' rfl, hne '\r' rfl]
  · simp [hne '#' rfl, hne '"' rfl, hne '@' rfl]

namespace Reader

variable {cs : List Char}

/-- No blank is there to be taken. -/
theorem takes_no_blanks (h : BeginsPlain cs) : blanks.Takes cs () cs :=
  takes_blanks (skipBlanks_eq_self h)

/-- A single blank is there to be taken. -/
theorem takes_blank (h : BeginsPlain cs) : blanks.Takes (' ' :: cs) () cs := by
  apply takes_blanks
  change skipBlanks false cs = cs
  exact skipBlanks_eq_self h

/-- No description is there to be taken. -/
theorem refuses_string (h : BeginsPlain cs) : string.Refuses cs := by
  apply Refuses.rule
  apply Refuses.ofScan
  cases cs with
  | nil => rfl
  | cons c tail =>
    have hquote : c ≠ '"' := fun heq => (h c rfl).2 (by simp [heq])
    simp [scanString, hquote]

/-- No directive is there to be taken. -/
theorem takes_no_directives (h : BeginsPlain cs) : someDirectives.Takes cs [] cs := by
  have hmark : skipWord "@".toList cs = none := by
    change skipWord ['@'] cs = none
    cases cs with
    | nil => rfl
    | cons c tail => exact if_neg fun heq => (h c rfl).2 (by simp [← heq])
  have hrefuses : directives.Refuses cs :=
    Refuses.rule <| Refuses.bind <| Refuses.bind <| Refuses.rule <| Refuses.bind <|
      refuses_word hmark
  exact hrefuses.optional.bind Takes.pure

/-- The definition of a type is refused where neither the word for its kind nor that for
extensions stands. -/
theorem refuses_typeOf {α : Type} {kind : String}
    {inDefinition inExtension : Reader (α × List PlacedNumber)} {body : α → TypeBody}
    (h : BeginsPlain cs) (hkind : skipWord kind.toList cs = none)
    (hextend : skipWord "extend".toList cs = none) :
    (typeOf kind inDefinition inExtension body).Refuses cs := by
  apply Refuses.rule
  apply Refuses.orElse
  · refine (refuses_string h).optional.bind_refuses ?_
    exact (takes_no_blanks h).bind_refuses (Refuses.bind (refuses_word hkind))
  · exact Refuses.bind (Refuses.rule (refuses_word hextend))

/-- The definition of a schema is refused where neither of the words that may begin it stands. -/
theorem refuses_schemaDefinition (hschema : skipWord "schema".toList cs = none)
    (hextend : skipWord "extend".toList cs = none) : schemaDefinition.Refuses cs :=
  Refuses.rule <| Refuses.orElse (Refuses.bind (refuses_word hschema))
    (Refuses.bind (Refuses.rule (refuses_word hextend)))

/-- At the end of the text no definition is there to be taken. -/
theorem refuses_definition_nil : definition.Refuses [] := by
  have hplain : BeginsPlain [] := by simp [BeginsPlain]
  have hscalar : scalarType.Refuses [] := refuses_typeOf hplain rfl rfl
  have hobject : objectType.Refuses [] := refuses_typeOf hplain rfl rfl
  have hinterface : interfaceType.Refuses [] := refuses_typeOf hplain rfl rfl
  have hunion : unionType.Refuses [] := by
    dsimp only [unionType]
    exact refuses_typeOf hplain rfl rfl
  have henum : enumType.Refuses [] := refuses_typeOf hplain rfl rfl
  have hinput : inputObjectType.Refuses [] := refuses_typeOf hplain rfl rfl
  have htype : typeDefinition.Refuses [] :=
    Refuses.rule <| hscalar.orElse <| hobject.orElse <| hinterface.orElse <| hunion.orElse <|
      henum.orElse hinput
  have hdirective : directiveDefinition.Refuses [] :=
    Refuses.rule <| (refuses_string hplain).optional.bind_refuses <|
      (takes_no_blanks hplain).bind_refuses <| Refuses.bind (refuses_word rfl)
  have hschema : schemaDefinition.Refuses [] := refuses_schemaDefinition rfl rfl
  exact Refuses.rule <| hschema.orElse <| htype.orElse hdirective

/-- The reader of documents takes a definition that goes up to the end of the text. -/
theorem takes_document {clause : Clause} (hplain : BeginsPlain cs)
    (h : definition.Takes cs clause []) :
    document.Takes cs [clause] [] := by
  have hempty : BeginsPlain [] := by simp [BeginsPlain]
  have hend : TakesAll (do let value ← definition; blanks; return value) [] [] [] :=
    .nil (Refuses.bind refuses_definition_nil)
  have hdefinitions : (list1 definition).Takes cs [clause] [] := by
    refine h.bind ?_
    exact (takes_no_blanks hempty).bind (hend.many.bind Takes.pure)
  apply Takes.rule
  refine (takes_no_blanks hplain).bind ?_
  refine hdefinitions.bind ?_
  exact (takes_no_blanks hempty).bind (Takes.atEnd.rule.bind Takes.pure)

end Reader

/-- A text that is taken as a definition without numbers is a document with this definition only, if
nothing that the grammar leaves open speaks against it. -/
theorem definitionsOf_of_takes {text : String} {definition : Definition}
    (hplain : BeginsPlain text.toList) (h : Reader.definition.Takes text.toList ⟨definition, []⟩ [])
    (hcheck : definition.check = .ok ()) :
    definitionsOf text = .ok [definition] := by
  obtain ⟨last, hread⟩ := Reader.takes_document hplain h 0
  have hclauses : clausesOf text.toList = .ok [⟨definition, []⟩] := by
    rw [clausesOf]
    simp only [hread]
  have hclause : Clause.check text.toList ⟨definition, []⟩ = .ok definition := by
    change (definition.check >>= fun _ => pure definition) = _
    rw [hcheck]
    rfl
  rw [definitionsOf, hclauses]
  change [(⟨definition, []⟩ : Clause)].mapM (·.check text.toList) = _
  rw [List.mapM_cons, hclause]
  rfl

end SdlCodegen.Sdl
