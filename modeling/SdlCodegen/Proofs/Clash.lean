import Mathlib.Data.List.Induction
import Mathlib.Data.List.Nodup
import SdlCodegen.Declaration.OfGraph

/-!
# Names that become one identifier

Names are compared one after the other with all names before them. There is no clash exactly if no
two positions have the same identifier, whatever the names are that the identifiers were made from.

Of several clashes the one that is complete first is found. Until then the identifiers of the names
seen are all different, so the next name can clash with one of them only.
-/

namespace SdlCodegen

/-- Two positions have one identifier. -/
def HaveClash (idents : List String) : Prop :=
  ∃ first second : Nat, first < second ∧ second < idents.length ∧ idents[first]? = idents[second]?

/-- Identifiers clash exactly if they are not all different. -/
theorem not_haveClash {idents : List String} : ¬ HaveClash idents ↔ idents.Nodup := by
  rw [List.nodup_iff_getElem?_ne_getElem?, HaveClash]
  push Not
  rfl

/-- Two positions hold elements in a relation. -/
def HavePair {α : Type} (related : α → α → Prop) (items : List α) : Prop :=
  ∃ (first second : Nat) (a b : α), first < second ∧ items[first]? = some a ∧
    items[second]? = some b ∧
    related a b

/-- Whether there are such positions depends on the elements of the list only. -/
theorem havePair_congr {α : Type} {related other : α → α → Prop} {items : List α}
    (h : ∀ a ∈ items, ∀ b ∈ items, related a b ↔ other a b) :
    HavePair related items ↔ HavePair other items := by
  have himp : ∀ {one another : α → α → Prop}, (∀ a ∈ items, ∀ b ∈ items, one a b → another a b) →
      HavePair one items → HavePair another items := by
    rintro one another hrelated ⟨first, second, a, b, hlt, ha, hb, hab⟩
    exact ⟨first, second, a, b, hlt, ha, hb,
      hrelated a (List.mem_of_getElem? ha) b (List.mem_of_getElem? hb) hab⟩
  exact ⟨himp fun a ha b hb => (h a ha b hb).mp, himp fun a ha b hb => (h a ha b hb).mpr⟩

/-- Elements clash exactly if two positions hold elements with one identifier. -/
theorem haveClash_map {α : Type} {ident : α → String} {items : List α} :
    HaveClash (items.map ident) ↔ HavePair (fun a b => ident a = ident b) items := by
  constructor
  · rintro ⟨first, second, hlt, hsecond, heq⟩
    rw [List.length_map] at hsecond
    have hfirst : first < items.length := Nat.lt_trans hlt hsecond
    refine ⟨first, second, items[first], items[second], hlt, List.getElem?_eq_getElem hfirst,
      List.getElem?_eq_getElem hsecond, ?_⟩
    simpa [hfirst, hsecond] using heq
  · rintro ⟨first, second, a, b, hlt, ha, hb, heq⟩
    have hsecond : second < items.length := (List.getElem?_eq_some_iff.mp hb).1
    exact ⟨first, second, hlt, by rwa [List.length_map], by simp [ha, hb, heq]⟩

/-- A name whose identifier is new joins those seen. -/
theorem firstClashAfter_cons_of_not_mem {seen rest : List (String × String)} {name ident : String}
    (h : ident ∉ seen.map (·.2)) :
    firstClashAfter seen.reverse ((name, ident) :: rest) =
      firstClashAfter (seen ++ [(name, ident)]).reverse rest := by
  have hnone : seen.reverse.find? (·.2 == ident) = none := by
    rw [List.find?_eq_none]
    intro entry hentry hident
    exact h (List.mem_map.mpr ⟨entry, List.mem_reverse.mp hentry, by simpa using hident⟩)
  rw [firstClashAfter, hnone, List.reverse_append]
  rfl

/-- A name whose identifier has been seen is reported with the name that it was seen with. -/
theorem firstClashAfter_cons_of_mem {seen rest : List (String × String)} {first name ident : String}
    (hseen : (seen.map (·.2)).Nodup) (h : (first, ident) ∈ seen) :
    firstClashAfter seen.reverse ((name, ident) :: rest) = some ⟨ident, first, name⟩ := by
  cases hfound : seen.reverse.find? (·.2 == ident) with
  | none =>
    have hnone := List.find?_eq_none.mp hfound (first, ident) (List.mem_reverse.mpr h)
    simp at hnone
  | some other =>
    -- no two names seen have one identifier, so the order in which they are searched
    -- does not matter
    have hmem : other ∈ seen := List.mem_reverse.mp (List.mem_of_find?_eq_some hfound)
    have hident : other.2 = ident := by simpa using List.find?_some hfound
    obtain rfl : other = (first, ident) := List.inj_on_of_nodup_map hseen hmem h hident
    rw [firstClashAfter, hfound]

/-- Identifiers stay different exactly if a new one joins them. -/
theorem nodup_idents_append_singleton {names : List (String × String)} {name ident : String} :
    ((names ++ [(name, ident)]).map (·.2)).Nodup ↔
      (names.map (·.2)).Nodup ∧ ident ∉ names.map (·.2) := by
  rw [List.map_append, List.map_singleton, ← List.concat_eq_append, List.nodup_concat, and_comm]

/-- As long as all identifiers are different, names are only added to those seen. -/
theorem firstClashAfter_append (seen : List (String × String)) {front : List (String × String)}
    (rest : List (String × String)) (h : ((seen ++ front).map (·.2)).Nodup) :
    firstClashAfter seen.reverse (front ++ rest) =
      firstClashAfter (seen ++ front).reverse rest := by
  -- the names seen grow from step to step, and `h` goes along: it covers them and the names
  -- still to be passed
  induction front generalizing seen with
  | nil => rw [List.nil_append, List.append_nil]
  | cons entry front ih =>
    obtain ⟨name, ident⟩ := entry
    rw [List.append_cons] at h ⊢
    have hnew : ((seen ++ [(name, ident)]).map (·.2)).Nodup := by
      rw [List.map_append] at h
      exact h.of_append_left
    rw [List.cons_append, firstClashAfter_cons_of_not_mem (nodup_idents_append_singleton.mp hnew).2]
    exact ih _ h

/-- Unless all identifiers are different, there is a first one that is among those in front of
it. -/
theorem exists_repeated_of_not_nodup {names : List (String × String)}
    (h : ¬ (names.map (·.2)).Nodup) :
    ∃ front first second ident back, names = front ++ (second, ident) :: back ∧
      (front.map (·.2)).Nodup ∧ (first, ident) ∈ front := by
  induction names using List.reverseRecOn with
  | nil => exact absurd List.nodup_nil h
  | append_singleton front entry ih =>
    obtain ⟨second, ident⟩ := entry
    by_cases hfront : (front.map (·.2)).Nodup
    · have hmem : ident ∈ front.map (·.2) := by
        by_contra hnew
        exact h (nodup_idents_append_singleton.mpr ⟨hfront, hnew⟩)
      obtain ⟨⟨first, _⟩, hfirst, rfl⟩ := List.mem_map.mp hmem
      exact ⟨front, first, second, _, [], rfl, hfront, hfirst⟩
    · obtain ⟨shorter, first, repeated, same, back, rfl, hshorter, hfirst⟩ := ih hfront
      exact ⟨shorter, first, repeated, same, back ++ [(second, ident)], by simp, hshorter, hfirst⟩

/-- The first identifier that is among those in front of it is reported. -/
theorem firstClash_append_cons {front : List (String × String)} {first second ident : String}
    (back : List (String × String)) (hfront : (front.map (·.2)).Nodup)
    (h : (first, ident) ∈ front) :
    firstClash (front ++ (second, ident) :: back) = some ⟨ident, first, second⟩ :=
  (firstClashAfter_append [] _ hfront).trans (firstClashAfter_cons_of_mem hfront h)

/-- There is no clash exactly if no two positions have one identifier. -/
theorem firstClash_eq_none {names : List (String × String)} :
    firstClash names = none ↔ (names.map (·.2)).Nodup := by
  constructor
  · intro h
    by_contra hrepeated
    obtain ⟨front, first, second, ident, back, rfl, hfront, hfirst⟩ :=
      exists_repeated_of_not_nodup hrepeated
    rw [firstClash_append_cons back hfront hfirst] at h
    cases h
  · intro h
    have hrun := firstClashAfter_append [] [] h
    rwa [List.append_nil] at hrun

/-- The names at two positions are the first clash: the identifiers in front of the second position
are all different, and the one at this position is also at the first one and nowhere else before. -/
structure IsFirstClash (names : List (String × String)) (first second : Nat)
    (clash : Clash) : Prop where
  lt : first < second
  atFirst : names[first]? = some (clash.first, clash.ident)
  atSecond : names[second]? = some (clash.second, clash.ident)
  only : ∀ i name, i < second → names[i]? = some (name, clash.ident) → i = first
  distinct : ¬ HaveClash ((names.take second).map (·.2))

/-- The second name of the first clash comes after names with different identifiers, the first
name among them. -/
theorem exists_isFirstClash_iff {names : List (String × String)} {clash : Clash} :
    (∃ first second, IsFirstClash names first second clash) ↔
      ∃ front back, names = front ++ (clash.second, clash.ident) :: back ∧ (front.map (·.2)).Nodup ∧
        (clash.first, clash.ident) ∈ front := by
  constructor
  · rintro ⟨first, second, h⟩
    obtain ⟨hsecond, hentry⟩ := List.getElem?_eq_some_iff.mp h.atSecond
    refine ⟨names.take second, names.drop (second + 1), ?_, not_haveClash.mp h.distinct, ?_⟩
    · rw [← hentry, ← List.drop_eq_getElem_cons hsecond, List.take_append_drop]
    · apply List.mem_of_getElem?
      rw [List.getElem?_take_of_lt h.lt]
      exact h.atFirst
  · rintro ⟨front, back, rfl, hfront, hmem⟩
    obtain ⟨first, hfirst⟩ := List.mem_iff_getElem?.mp hmem
    have hlt : first < front.length := (List.getElem?_eq_some_iff.mp hfirst).1
    refine ⟨first, front.length, hlt, ?_, by simp, ?_, ?_⟩
    · rw [List.getElem?_append_left hlt, hfirst]
    · intro i name hi hname
      rw [List.getElem?_append_left hi] at hname
      have hident : (front.map (·.2))[i]? = (front.map (·.2))[first]? := by simp [hname, hfirst]
      exact (List.getElem?_inj (by rwa [List.length_map]) hfront).mp hident
    · rw [List.take_left, not_haveClash]
      exact hfront

/-- The clash that is found is the first one. -/
theorem firstClash_eq_some {names : List (String × String)} {clash : Clash} :
    firstClash names = some clash ↔ ∃ first second, IsFirstClash names first second clash := by
  rw [exists_isFirstClash_iff]
  constructor
  · intro h
    have hrepeated : ¬ (names.map (·.2)).Nodup := by
      rw [← firstClash_eq_none, h]
      exact Option.some_ne_none clash
    obtain ⟨front, first, second, ident, back, rfl, hfront, hfirst⟩ :=
      exists_repeated_of_not_nodup hrepeated
    rw [firstClash_append_cons back hfront hfirst] at h
    cases h
    exact ⟨front, back, rfl, hfront, hfirst⟩
  · rintro ⟨front, back, rfl, hfront, hfirst⟩
    exact firstClash_append_cons back hfront hfirst

/-- The check for clashes passes exactly if no two positions have one identifier. -/
theorem ensureUnique_eq_ok {scope : Scope} {names : List (String × String)} :
    ensureUnique scope names = .ok () ↔ (names.map (·.2)).Nodup := by
  rw [← firstClash_eq_none, ensureUnique]
  cases firstClash names <;> simp

/-- The check for clashes on names and their identifiers is one of the identifiers alone. -/
theorem ensureUnique_zip_eq_ok {scope : Scope} {names idents : List String}
    (h : names.length = idents.length) :
    ensureUnique scope (names.zip idents) = .ok () ↔ idents.Nodup := by
  rw [ensureUnique_eq_ok, List.map_snd_zip (Nat.le_of_eq h.symm)]

/-- The check for clashes fails exactly if two positions have one identifier. -/
theorem exists_ensureUnique_eq_error {scope : Scope} {names : List (String × String)} :
    (∃ clash, ensureUnique scope names = .error (.duplicateIdentifier scope clash)) ↔
      HaveClash (names.map (·.2)) := by
  rw [← not_iff_not, not_haveClash, ← firstClash_eq_none, ensureUnique]
  cases firstClash names <;> simp

/-- The check for clashes fails with the clash that is found. -/
theorem ensureUnique_eq_error {scope : Scope} {names : List (String × String)} {clash : Clash} :
    ensureUnique scope names = .error (.duplicateIdentifier scope clash) ↔
      firstClash names = some clash := by
  rw [ensureUnique]
  cases firstClash names <;> simp

/-- The check for clashes passes exactly if all identifiers are different. Otherwise it reports a
clash, and this is the one of the first name whose identifier has occurred before, with the only
name it has occurred with. -/
theorem ensureUnique_reports_first_clash (scope : Scope) (names : List (String × String)) :
    (ensureUnique scope names = .ok () ↔ (names.map (·.2)).Nodup) ∧
    (¬ (names.map (·.2)).Nodup ↔
      ∃ clash, ensureUnique scope names = .error (.duplicateIdentifier scope clash)) ∧
    ∀ clash, ensureUnique scope names = .error (.duplicateIdentifier scope clash) ↔
      ∃ first second, IsFirstClash names first second clash := by
  refine ⟨ensureUnique_eq_ok, ?_, fun clash => ?_⟩
  · rw [exists_ensureUnique_eq_error, ← not_haveClash, not_not]
  · rw [ensureUnique_eq_error, firstClash_eq_some]

/-- A clash that begins earlier is not the first one if another one is complete before it. -/
example : firstClash [("fooBar", "foo_bar"), ("x", "x"), ("x", "y"), ("X_", "x"),
    ("foo_bar", "foo_bar")] =
    some ⟨"x", "x", "X_"⟩ := by decide

end SdlCodegen
