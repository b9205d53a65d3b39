import SdlCodegen.FileTree
import SdlCodegen.Proofs.Fallible

/-!
# What writing a file changes

A file is written at one place, where no directory stands. The way to it leads through directories
only, and those stay. So the same path leads to the new file afterwards, and whatever stands at
another place is as it was.
-/

namespace SdlCodegen

namespace FileTree

open Fallible

variable {tree other written : FileTree} {place names reached : List String}

/-- Two trees are the same but for what stands at a place: they have the same other entries, in the
same order, the same working directory and the same barred places. -/
structure AgreeExcept (place : List String) (tree other : FileTree) : Prop where
  entries : tree.entries.filter (·.1 != place) = other.entries.filter (·.1 != place)
  workingDirectory : tree.workingDirectory = other.workingDirectory
  barred : tree.barred = other.barred

/-- Looking up one name does not see the entries under another. -/
theorem lookup_filter_ne {entries : List (List String × Entry)} (h : names ≠ place) :
    (entries.filter (·.1 != place)).lookup names = entries.lookup names := by
  induction entries with
  | nil => rfl
  | cons entry entries ih =>
    obtain ⟨name, entry⟩ := entry
    by_cases hplace : name = place
    · have hother : (names == place) = false := by simpa using h
      simp [hplace, ih, List.lookup_cons, hother]
    · simp [hplace, ih, List.lookup_cons]

/-- Trees that agree except at a place have the same at every other. -/
theorem AgreeExcept.entry?_eq (h : AgreeExcept place tree other) (hne : names ≠ place) :
    tree.entry? names = other.entry? names := by
  cases names with
  | nil => rfl
  | cons name names =>
    change tree.entries.lookup _ = other.entries.lookup _
    rw [← lookup_filter_ne hne, h.entries, lookup_filter_ne hne]

/-- Putting an entry changes its place only. -/
theorem agreeExcept_put (entry : Entry) : AgreeExcept place tree (tree.put place entry) where
  entries := by simp [put]
  workingDirectory := rfl
  barred := rfl

/-- A path starts from the same place whatever is put in the tree. -/
@[simp]
theorem start_put (tree : FileTree) (names : List String) (entry : Entry) :
    (tree.put names entry).start = tree.start := rfl

/-- What was put at a place other than the root stands there. -/
theorem entry?_put_self (entry : Entry) (h : place ≠ []) :
    entry? (tree.put place entry) place = some entry := by
  cases place with
  | nil => exact absurd rfl h
  | cons name names => simp [put, entry?]

/-- Where one name leads from a directory. -/
def enter (place : List String) (name : String) : List String :=
  if name = "" ∨ name = "." then place
  else if name = ".." then place.dropLast
  else place ++ [name]

/-- A walk goes on exactly from directories. -/
theorem walk_cons_eq_ok {name : String} :
    tree.walk place (name :: names) = .ok reached ↔
      tree.entry? place = some .directory ∧ tree.walk (enter place name) names = .ok reached := by
  rw [walk]
  cases hentry : tree.entry? place with
  | none => simp
  | some entry =>
    cases entry with
    | file content => simp
    | directory =>
      unfold enter
      split_ifs <;> simp

/-- A walk through a tree leads the same way through one with at least its directories. -/
theorem walk_eq_ok_of_directories
    (h : ∀ names, tree.entry? names = some .directory → other.entry? names = some .directory)
    (hwalk : tree.walk place names = .ok reached) : other.walk place names = .ok reached := by
  induction names generalizing place with
  | nil => exact hwalk
  | cons name names ih =>
    obtain ⟨hentry, hrest⟩ := walk_cons_eq_ok.mp hwalk
    exact walk_cons_eq_ok.mpr ⟨h place hentry, ih hrest⟩

/-- The last step of a walk leaves a directory. -/
theorem walk_concat_eq_ok {name : String} :
    tree.walk place (names ++ [name]) = .ok reached ↔
      ∃ middle, tree.walk place names = .ok middle ∧ tree.entry? middle = some .directory ∧
        enter middle name = reached := by
  induction names generalizing place with
  | nil =>
    rw [List.nil_append, walk_cons_eq_ok]
    simp [walk]
  | cons first names ih =>
    rw [List.cons_append, walk_cons_eq_ok, ih]
    simp only [walk_cons_eq_ok, and_assoc, exists_and_left]

section View

variable {path : String} {content : ByteArray} {error : PathError}

/-- What is found at a place that is not barred. -/
theorem opened_of_eq_none {α : Type} (h : tree.barred.lookup place = none) (found : α) :
    tree.opened place found = .ok found := by
  rw [opened, h]

/-- Nothing is found at a place that is barred. -/
theorem opened_of_eq_some {α : Type} (h : tree.barred.lookup place = some error) (found : α) :
    tree.opened place found = .error error := by
  rw [opened, h]

/-- A program sees a directory where a path leads to one. -/
theorem isDirectory_view :
    tree.view.isDirectory path ↔ ∃ place, tree.locate path = .ok (place, .directory) := by
  rcases hlocate : tree.locate path with error | ⟨place, content | -⟩ <;> simp [view, hlocate]

/-- A program sees a regular file where a path leads to one. -/
theorem isFile_view :
    tree.view.isFile path ↔ ∃ place content, tree.locate path = .ok (place, .file content) := by
  rcases hlocate : tree.locate path with error | ⟨place, content | -⟩ <;> simp [view, hlocate]

/-- A program lists the names in a directory. -/
theorem list_view (h : tree.locate path = .ok (place, .directory)) :
    tree.view.list path = tree.opened place (tree.namesIn place) := by
  simp only [view, h]

/-- A program reads the content of a file. -/
theorem read_view (h : tree.locate path = .ok (place, .file content)) :
    tree.view.read path = tree.opened place content := by
  simp only [view, h]

/-- A program cannot read what a path does not lead to. -/
theorem read_view_of_error (h : tree.locate path = .error error) :
    tree.view.read path = .error error := by
  simp only [view, h]

end View

/-- Names from whose end no empty one is dropped end in one that is not empty. -/
theorem exists_concat_of_not_lt
    (h : ¬ (names.reverse.dropWhile (· == "")).reverse.length < names.length) (hne : names ≠ []) :
    ∃ front last, names = front ++ [last] ∧ last ≠ "" ∧
      (names.reverse.dropWhile (· == "")).reverse = names := by
  obtain ⟨front, last, rfl⟩ := (List.eq_nil_or_concat' names).resolve_left hne
  have hlast : last ≠ "" := by
    rintro rfl
    have hshort : (front.reverse.dropWhile (· == "")).length ≤ front.reverse.length :=
      (List.dropWhile_sublist _).length_le
    apply h
    rw [List.reverse_concat, List.dropWhile_cons_of_pos rfl, List.length_reverse,
      List.length_append]
    rw [List.length_reverse] at hshort
    exact Nat.lt_succ_of_le hshort
  exact ⟨front, last, rfl, hlast, by simp [hlast]⟩

/-- A path leads to what is put at its place, if no directory was there: the way is as before. -/
theorem locate_put {path last : String} {front parent : List String} {content : ByteArray}
    (hpath : path ≠ "") (hnames : pathNames path = front ++ [last])
    (hlast : last ≠ "" ∧ last ≠ "." ∧ last ≠ "..")
    (hwalk : tree.walk (tree.start path) front = .ok parent)
    (hparent : tree.entry? parent = some .directory)
    (hplace : tree.entry? (parent ++ [last]) ≠ some .directory) :
    (tree.put (parent ++ [last]) (.file content)).locate path =
      .ok (parent ++ [last], .file content) := by
  have hkept : ∀ names, tree.entry? names = some .directory →
      entry? (tree.put (parent ++ [last]) (.file content)) names = some .directory := by
    intro names hnames
    have hne : names ≠ parent ++ [last] := fun heq => hplace (heq ▸ hnames)
    rw [← (agreeExcept_put _).entry?_eq hne, hnames]
  have henter : enter parent last = parent ++ [last] := by
    simp [enter, hlast]
  have hreached := walk_concat_eq_ok.mpr
    ⟨parent, walk_eq_ok_of_directories hkept hwalk, hkept _ hparent, henter⟩
  unfold locate
  rw [if_neg hpath, start_put, hnames, hreached]
  simp only [bind, Except.bind, entry?_put_self _ (List.concat_ne_nil last parent)]

/-- What is written is found under its path, where no directory was, and nothing else changes. -/
theorem write_eq_ok {path : String} {content : ByteArray}
    (h : tree.write path content = .ok written) :
    ∃ place, tree.entry? place ≠ some .directory ∧
      written.locate path = .ok (place, .file content) ∧ tree.AgreeExcept place written := by
  unfold write at h
  split_ifs at h with hpath
  obtain ⟨parent, hwalk, h⟩ := bind_eq_ok.mp h
  split at h
  case h_2 => cases h
  case h_3 => cases h
  case h_1 hparent =>
    dsimp only at h
    split_ifs at h with hnames
    obtain ⟨hlength, hdot⟩ := not_or.mp hnames
    have hne : pathNames path ≠ [] := by
      intro hnil
      simp [hnil] at hdot
    obtain ⟨front, last, heq, hlast, hnamed⟩ := exists_concat_of_not_lt hlength hne
    rw [hnamed, heq, List.dropLast_concat] at hwalk
    rw [hnamed, heq, List.getLastD_concat] at hdot h
    split at h
    · cases h
    case h_2 hplace =>
      cases h
      exact ⟨_, hplace, locate_put hpath heq ⟨hlast, not_or.mp hdot⟩ hwalk hparent hplace,
        agreeExcept_put _⟩

end FileTree

end SdlCodegen
