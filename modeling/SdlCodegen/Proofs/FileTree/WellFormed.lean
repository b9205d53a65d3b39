import Mathlib.Data.List.Induction
import SdlCodegen.Proofs.FileTree
import SdlCodegen.Proofs.Text.Cut

/-!
# Well formed trees

A file tree is well formed if no place occurs twice in it and no name in it holds the separator of
paths. The tree without files is, and adding to a tree or writing to it keeps it so. In a well
formed tree the names in a directory are listed once each, and a name in a directory and the path of
the directory make a path to what has that name.
-/

namespace SdlCodegen

namespace FileTree

open Fallible

variable {tree written : FileTree} {place names : List String} {path name : String}

/-- No name of a place holds the separator of paths. -/
def Separated (place : List String) : Prop :=
  ∀ name ∈ place, '/' ∉ name.toList

/-- Every place has one entry, and every name can be part of a path. -/
structure WellFormed (tree : FileTree) : Prop where
  distinct : (tree.entries.map (·.1)).Nodup
  names : ∀ entry ∈ tree.entries, Separated entry.1
  workingDirectory : Separated tree.workingDirectory

/-- The names in a path do not hold the separator. -/
theorem separated_pathNames (path : String) : Separated (pathNames path) := by
  intro name hname
  obtain ⟨piece, hpiece, rfl⟩ := List.mem_map.mp hname
  rw [String.toList_ofList]
  exact Text.separator_not_mem_of_mem_pieces hpiece

namespace WellFormed

/-- The tree without files is well formed. -/
theorem empty : FileTree.empty.WellFormed where
  distinct := .nil
  names _ hentry := absurd hentry List.not_mem_nil
  workingDirectory _ hname := absurd hname List.not_mem_nil

/-- A tree stays well formed if an entry is put at a place of names without the separator. -/
theorem put (h : tree.WellFormed) (hnames : Separated names) (entry : Entry) :
    (tree.put names entry).WellFormed where
  distinct := by
    have hkept : ((tree.entries.filter (·.1 != names)).map (·.1)).Nodup :=
      h.distinct.sublist (List.filter_sublist.map _)
    refine List.nodup_cons.mpr ⟨fun hmem => ?_, hkept⟩
    obtain ⟨other, hother, heq⟩ := List.mem_map.mp hmem
    simp [heq] at hother
  names := List.forall_mem_cons.mpr
    ⟨hnames, fun other hother => h.names other (List.mem_of_mem_filter hother)⟩
  workingDirectory := h.workingDirectory

/-- The names of a place do not hold the separator if something stands there. -/
theorem separated (h : tree.WellFormed) {entry : Entry} (hentry : tree.entry? place = some entry) :
    Separated place := by
  cases place with
  | nil => exact fun _ hname => absurd hname List.not_mem_nil
  | cons first rest =>
    obtain ⟨front, back, heq, -⟩ := List.lookup_eq_some_iff.mp hentry
    exact h.names (first :: rest, entry) (heq ▸ List.mem_append_right front List.mem_cons_self)

/-- The names of the place of a plain path do not hold the separator. -/
theorem separated_plainPlace (h : tree.WellFormed) (path : String) :
    Separated (tree.plainPlace path) := by
  refine List.forall_mem_append.mpr ⟨?_, fun name hname => ?_⟩
  · unfold start
    split_ifs
    · exact fun _ hname => absurd hname List.not_mem_nil
    · exact h.workingDirectory
  · exact separated_pathNames path name (List.mem_of_mem_filter hname)

/-- A tree stays well formed if the directories around a place are added. -/
theorem addAround (h : tree.WellFormed) (hplace : Separated place) :
    (tree.addAround place).WellFormed := by
  refine List.foldlRecOn (List.range place.length) _ h fun current hcurrent count _ => ?_
  split
  · exact hcurrent
  · exact hcurrent.put (fun name hname => hplace name (List.mem_of_mem_take hname)) .directory

/-- A tree stays well formed if a directory is added. -/
theorem addDirectory (h : tree.WellFormed) (path : String) :
    (tree.addDirectory path).WellFormed := by
  have hplace := h.separated_plainPlace path
  unfold FileTree.addDirectory
  dsimp only
  split
  · exact h.addAround hplace
  · exact (h.addAround hplace).put hplace .directory

/-- A tree stays well formed if a file is added. -/
theorem addFile (h : tree.WellFormed) (path : String) (content : ByteArray) :
    (tree.addFile path content).WellFormed :=
  (h.addAround (h.separated_plainPlace path)).put (h.separated_plainPlace path) _

/-- A tree stays well formed if a file is written. -/
theorem write {content : ByteArray} (h : tree.WellFormed)
    (hwrite : tree.write path content = .ok written) : written.WellFormed := by
  unfold FileTree.write at hwrite
  split_ifs at hwrite
  obtain ⟨parent, -, hwrite⟩ := bind_eq_ok.mp hwrite
  have hlast :
      '/' ∉ (((pathNames path).reverse.dropWhile (· == "")).reverse.getLastD ".").toList := by
    cases hnamed : (pathNames path).reverse.dropWhile (· == "") with
    | nil => decide
    | cons last others =>
      have hmem : last ∈ (pathNames path).reverse :=
        (List.dropWhile_sublist _).subset (hnamed ▸ List.mem_cons_self)
      rw [List.reverse_cons, List.getLastD_concat]
      exact separated_pathNames path last (List.mem_reverse.mp hmem)
  split at hwrite
  case h_1 hparent =>
    dsimp only at hwrite
    split_ifs at hwrite
    split at hwrite
    · cases hwrite
    · cases hwrite
      refine h.put (List.forall_mem_append.mpr ⟨h.separated hparent, ?_⟩) _
      exact List.forall_mem_singleton.mpr hlast
  all_goals cases hwrite

/-- In a well formed tree an entry stands at its place. -/
theorem entry?_eq_some (h : tree.WellFormed) (hplace : place ≠ []) {entry : Entry} :
    tree.entry? place = some entry ↔ (place, entry) ∈ tree.entries := by
  obtain ⟨first, rest, rfl⟩ := List.exists_cons_of_ne_nil hplace
  change tree.entries.lookup (first :: rest) = some entry ↔ _
  rw [List.lookup_eq_some_iff]
  constructor
  · rintro ⟨front, back, heq, -⟩
    rw [heq]
    exact List.mem_append_right front List.mem_cons_self
  · intro hmem
    obtain ⟨front, back, heq⟩ := List.append_of_mem hmem
    refine ⟨front, back, heq, fun earlier hearlier => ?_⟩
    have hdistinct := h.distinct
    rw [heq, List.map_append, List.map_cons, List.nodup_append] at hdistinct
    have hne := hdistinct.2.2 earlier.1 (List.mem_map_of_mem hearlier) _ List.mem_cons_self
    simpa using hne.symm

end WellFormed

/-- The name of an entry that is directly inside a place. -/
def nameIn? (place : List String) (entry : List String × Entry) : Option String :=
  if entry.1.dropLast = place then entry.1.getLast? else none

/-- An entry has a name inside a place if it stands behind the place. -/
theorem nameIn?_eq_some {entry : List String × Entry} :
    nameIn? place entry = some name ↔ entry.1 = place ++ [name] := by
  obtain ⟨names, entry⟩ := entry
  cases names using List.reverseRecOn with
  | nil => simp [nameIn?]
  | append_singleton front last =>
    rw [nameIn?, List.dropLast_concat, List.getLast?_concat]
    simp

/-- The names in a place are those of its entries. -/
theorem namesIn_eq (tree : FileTree) (place : List String) :
    tree.namesIn place = tree.entries.filterMap (nameIn? place) := rfl

namespace WellFormed

/-- A name is listed in a place exactly if something stands behind it. -/
theorem mem_namesIn (h : tree.WellFormed) :
    name ∈ tree.namesIn place ↔ ∃ entry, tree.entry? (place ++ [name]) = some entry := by
  rw [namesIn_eq, List.mem_filterMap]
  simp only [nameIn?_eq_some, h.entry?_eq_some (List.concat_ne_nil name place)]
  constructor
  · rintro ⟨⟨names, entry⟩, hmem, rfl⟩
    exact ⟨entry, hmem⟩
  · rintro ⟨entry, hmem⟩
    exact ⟨_, hmem, rfl⟩

/-- No name is listed twice. -/
theorem nodup_namesIn (h : tree.WellFormed) (place : List String) :
    (tree.namesIn place).Nodup := by
  have hdistinct : tree.entries.Pairwise fun first second => first.1 ≠ second.1 :=
    List.pairwise_map.mp h.distinct
  rw [namesIn_eq, List.Nodup, List.pairwise_filterMap]
  refine hdistinct.imp fun {first second} hne name hfirst other hsecond heq => hne ?_
  rw [nameIn?_eq_some.mp hfirst, nameIn?_eq_some.mp hsecond, heq]

end WellFormed

/-- A path leads to what its names lead to. -/
theorem locate_eq_ok {entry : Entry} :
    tree.locate path = .ok (place, entry) ↔
      path ≠ "" ∧ tree.walk (tree.start path) (pathNames path) = .ok place ∧
        tree.entry? place = some entry := by
  unfold locate
  split_ifs with hpath
  · simp [hpath]
  · rw [bind_eq_ok]
    constructor
    · rintro ⟨reached, hwalk, hentry⟩
      cases hreached : tree.entry? reached with
      | none => simp [hreached] at hentry
      | some found =>
        simp only [hreached, Except.ok.injEq, Prod.mk.injEq] at hentry
        obtain ⟨rfl, rfl⟩ := hentry
        exact ⟨hpath, hwalk, hreached⟩
    · rintro ⟨-, hwalk, hentry⟩
      exact ⟨place, hwalk, by rw [hentry]⟩

/-- A name behind a separator is the last one of a path. -/
theorem pathNames_concat {cs : List Char} (hpath : path.toList = cs ++ '/' :: name.toList)
    (hname : '/' ∉ name.toList) :
    pathNames path = (Text.pieces '/' cs).map String.ofList ++ [name] := by
  rw [pathNames, hpath, Text.pieces_eq_splitOn, Text.pieces_eq_splitOn,
    List.splitOn_append_cons_self, List.splitOn_eq_singleton hname, List.map_append,
    List.map_singleton, String.ofList_toList]

end FileTree

end SdlCodegen
