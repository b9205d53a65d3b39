import Mathlib.Order.Defs.LinearOrder
import Mathlib.Data.String.Basic
import SdlCodegen.Proofs.FileTree.WellFormed
import SdlCodegen.Proofs.Text.ByteOrder
import SdlCodegen.Source

/-!
# What is loaded

Inputs are loaded one after the other. A path that is not that of a directory stands for its own
text, a directory for the texts of the schema files directly inside it, in the order of the bytes of
their names, whichever order the names in it are listed in. The first input that does not contribute
its texts is reported, and inside a directory the first file. What requests for URLs come to does
not matter to other inputs.
-/

namespace SdlCodegen

open Text (bytes)

/-- Two listings of a directory fail alike or have the same names, in any order. -/
inductive SameNames : Except PathError (List String) → Except PathError (List String) → Prop where
  | refused (error : PathError) : SameNames (.error error) (.error error)
  | listed {names other : List String} (hnames : names.Perm other) :
    SameNames (.ok names) (.ok other)

/-- A program may see the names in a directory in any order. -/
structure FileTree.ShownBy (tree : FileTree) (files : FileView) : Prop where
  isDirectory : ∀ path, files.isDirectory path = tree.view.isDirectory path
  isFile : ∀ path, files.isFile path = tree.view.isFile path
  list : ∀ path, SameNames (files.list path) (tree.view.list path)
  read : ∀ path, files.read path = tree.view.read path

variable {web : Web} {tree : FileTree} {files : FileView} {place names : List String}
  {input name : String} {content : ByteArray}

namespace Source

/-- The names of schema files are those that pass the checks. -/
theorem schemaNames_perm (files : FileView) (directory : String) (names : List String) :
    (schemaNames files directory names).Perm
      (names.filter fun name => files.isFile (join directory name) && isSchemaName name) :=
  List.mergeSort_perm _ _

/-- The names of schema files are in order. -/
theorem pairwise_schemaNames (files : FileView) (directory : String) (names : List String) :
    (schemaNames files directory names).Pairwise (· ≤ ·) := by
  have htrans : ∀ a b c : String, decide (a ≤ b) → decide (b ≤ c) → decide (a ≤ c) := by
    simp only [decide_eq_true_eq]
    exact fun _ _ _ => String.le_trans
  have htotal : ∀ a b : String, decide (a ≤ b) || decide (b ≤ a) := by
    simp only [Bool.or_eq_true, decide_eq_true_eq]
    exact String.le_total
  unfold schemaNames
  simpa only [decide_eq_true_eq] using List.pairwise_mergeSort htrans htotal (names.filter _)

/-- The order in which the names in a directory are shown does not matter. -/
theorem schemaNames_eq (h : tree.ShownBy files) (directory : String) {other : List String}
    (hnames : names.Perm other) :
    schemaNames files directory names = schemaNames tree.view directory other := by
  have hperm := schemaNames_perm files directory names
  simp only [h.isFile] at hperm
  exact List.Perm.eq_of_pairwise (fun _ _ _ _ => String.le_antisymm)
    (pairwise_schemaNames files directory names) (pairwise_schemaNames tree.view directory other)
    ((hperm.trans (hnames.filter _)).trans (schemaNames_perm tree.view directory other).symm)

/-- A file is read in the same way however its tree is shown. -/
theorem ofFile_eq (h : tree.ShownBy files) (path : String) :
    ofFile files path = ofFile tree.view path := by
  rw [ofFile, ofFile, h.read]

/-- A directory is read in the same way however its tree is shown. -/
theorem ofDirectory_eq (h : tree.ShownBy files) (directory : String) :
    ofDirectory files directory = ofDirectory tree.view directory := by
  have hlist := h.list directory
  unfold ofDirectory
  generalize files.list directory = shown at hlist
  generalize tree.view.list directory = listed at hlist
  cases hlist with
  | refused error => rfl
  | listed hnames => simp only [schemaNames_eq h directory hnames, ofFile_eq h]

/-- Inputs are loaded in the same way however their tree is shown. -/
theorem load_eq (web : Web) (h : tree.ShownBy files) (inputs : List String) :
    load web files inputs = load web tree.view inputs := by
  have hinput : ofInput web files = ofInput web tree.view := by
    funext input
    simp only [ofInput, h.isDirectory, ofDirectory_eq h, ofFile_eq h]
  rw [load, load, hinput]

end Source

/-- A name is a stem that is not empty and an ending of a schema file. -/
def HasSchemaEnding (name : String) : Prop :=
  ∃ stem, stem ≠ "" ∧ (name = stem ++ ".graphql" ∨ name = stem ++ ".graphqls")

/-- A text has an ending and more exactly if something stands in front of the ending. -/
theorem isSuffixOf_and_length_lt {ending cs : List Char} :
    (ending.isSuffixOf cs && ending.length < cs.length) ↔
      ∃ stem, stem ≠ [] ∧ cs = stem ++ ending := by
  rw [Bool.and_eq_true, List.isSuffixOf_iff_suffix, decide_eq_true_eq]
  constructor
  · rintro ⟨⟨stem, rfl⟩, hlength⟩
    refine ⟨stem, ?_, rfl⟩
    rintro rfl
    simp at hlength
  · rintro ⟨stem, hstem, rfl⟩
    exact ⟨List.suffix_append stem ending, by simpa using List.length_pos_of_ne_nil hstem⟩

/-- The check of a name is that it has the ending of a schema file. -/
theorem Source.isSchemaName_iff : isSchemaName name ↔ HasSchemaEnding name := by
  have hending : ∀ ending : String,
      (∃ stem, stem ≠ [] ∧ name.toList = stem ++ ending.toList) ↔
        ∃ stem, stem ≠ "" ∧ name = stem ++ ending := by
    intro ending
    constructor
    · rintro ⟨stem, hstem, hname⟩
      refine ⟨String.ofList stem, by simpa using hstem, ?_⟩
      rw [← String.toList_inj, String.toList_append, String.toList_ofList, hname]
    · rintro ⟨stem, hstem, rfl⟩
      exact ⟨stem.toList, by simpa using hstem, String.toList_append⟩
  simp only [isSchemaName, endings, List.any_cons, List.any_nil, Bool.or_false, Bool.or_eq_true,
    isSuffixOf_and_length_lt, hending, HasSchemaEnding, or_comm, ← exists_or, and_or_left]

namespace FileTree

/-- A regular file with the name of a schema file stands directly inside a place. -/
def HasSchemaFile (tree : FileTree) (place : List String) (name : String) : Prop :=
  HasSchemaEnding name ∧ ∃ content, tree.entry? (place ++ [name]) = some (.file content)

/-- Names are those of the schema files directly inside a place, in the order of their bytes. -/
structure ListsSchemaFiles (tree : FileTree) (place names : List String) : Prop where
  sorted : names.Pairwise fun first second => bytes first < bytes second
  mem : ∀ name, name ∈ names ↔ tree.HasSchemaFile place name

/-- A file that can be opened stands at a place and has a text. -/
structure HasText (tree : FileTree) (place : List String) (text : String) : Prop where
  entry : tree.entry? place = some (.file text.toUTF8)
  opens : tree.barred.lookup place = none

/-- A file stands at a place and has no text that can be read: it cannot be opened, or it is not
UTF-8. -/
inductive HasNoText (tree : FileTree) (place : List String) : ReadError → Prop where
  | barred {content : ByteArray} {error : PathError}
    (hentry : tree.entry? place = some (.file content))
    (hbarred : tree.barred.lookup place = some error) : HasNoText tree place (.path error)
  | encoding {content : ByteArray} (hentry : tree.entry? place = some (.file content))
    (hopens : tree.barred.lookup place = none) (hcontent : ∀ text : String, content ≠ text.toUTF8) :
    HasNoText tree place .invalidEncoding

/-- An input contributes texts: a file its own, a directory those of its schema files. -/
inductive Contributes (tree : FileTree) (input : String) : List Source → Prop where
  | file {place : List String} {content : ByteArray} {text : String}
    (hfile : tree.locate input = .ok (place, .file content)) (htext : tree.HasText place text) :
    Contributes tree input [⟨input, text⟩]
  | directory {place names : List String} {sources : List Source}
    (hdirectory : tree.locate input = .ok (place, .directory))
    (hopens : tree.barred.lookup place = none) (hnames : tree.ListsSchemaFiles place names)
    (hany : names ≠ [])
    (hsources : List.Forall₂ (fun name source =>
      source.origin = Source.join input name ∧ tree.HasText (place ++ [name]) source.text)
      names sources) :
    Contributes tree input sources

/-- An input does not contribute its texts: it leads nowhere, it is a file without a text that can
be read, or it is a directory that cannot be listed, has no schema files, or has one without a text
that can be read. The first such file is the one to blame. -/
inductive Refuses (tree : FileTree) (input : String) : SourceError → Prop where
  | path {error : PathError} (hpath : tree.locate input = .error error) :
    Refuses tree input (.unreadable input (.path error))
  | file {place : List String} {content : ByteArray} {cause : ReadError}
    (hfile : tree.locate input = .ok (place, .file content)) (hcause : tree.HasNoText place cause) :
    Refuses tree input (.unreadable input cause)
  | directory {place : List String} {error : PathError}
    (hdirectory : tree.locate input = .ok (place, .directory))
    (hbarred : tree.barred.lookup place = some error) :
    Refuses tree input (.unreadable input (.path error))
  | emptyDirectory {place : List String}
    (hdirectory : tree.locate input = .ok (place, .directory))
    (hopens : tree.barred.lookup place = none) (hnone : ∀ name, ¬ tree.HasSchemaFile place name) :
    Refuses tree input (.emptyDirectory input)
  | member {place : List String} {name : String} {cause : ReadError}
    (hdirectory : tree.locate input = .ok (place, .directory))
    (hopens : tree.barred.lookup place = none) (hfile : tree.HasSchemaFile place name)
    (hcause : tree.HasNoText (place ++ [name]) cause)
    (hfirst : ∀ earlier, tree.HasSchemaFile place earlier → bytes earlier < bytes name →
      ∃ text, tree.HasText (place ++ [earlier]) text) :
    Refuses tree input (.unreadable (Source.join input name) cause)

/-- There is one list of the schema files in a place. -/
theorem ListsSchemaFiles.unique {other : List String} (hnames : tree.ListsSchemaFiles place names)
    (hother : tree.ListsSchemaFiles place other) : names = other := by
  have hnodup : ∀ {names}, tree.ListsSchemaFiles place names → names.Nodup := by
    intro names hlists
    apply hlists.sorted.imp
    rintro name _ hlt rfl
    exact List.lt_irrefl _ hlt
  have hperm : names.Perm other :=
    (List.perm_ext_iff_of_nodup (hnodup hnames) (hnodup hother)).mpr fun name => by
      rw [hnames.mem, hother.mem]
  exact List.Perm.eq_of_pairwise (fun _ _ _ _ hlt hgt => absurd hgt (List.lt_asymm hlt))
    hnames.sorted hother.sorted hperm

/-- The names in front of one are those whose bytes come first. -/
theorem ListsSchemaFiles.mem_front {front back : List String} {other : String}
    (h : tree.ListsSchemaFiles place (front ++ name :: back)) :
    other ∈ front ↔ tree.HasSchemaFile place other ∧ bytes other < bytes name := by
  obtain ⟨-, hback, hfront⟩ := List.pairwise_append.mp h.sorted
  rw [← h.mem, List.mem_append, List.mem_cons]
  constructor
  · exact fun hother => ⟨.inl hother, hfront other hother name List.mem_cons_self⟩
  · rintro ⟨hother | rfl | hother, hlt⟩
    · exact hother
    · exact absurd hlt (List.lt_irrefl _)
    · exact absurd hlt (List.lt_asymm (List.rel_of_pairwise_cons hback hother))

end FileTree

namespace Source

/-- A path in a directory is the path of the directory, of which a separator at the end is not
repeated, a separator and a name. -/
theorem exists_toList_join (directory name : String) :
    ∃ cs, (join directory name).toList = cs ++ '/' :: name.toList ∧
      (directory.toList = cs ∨ directory.toList = cs ++ '/' :: "".toList) := by
  unfold join
  split
  · next hlast =>
    obtain ⟨cs, hcs⟩ := List.getLast?_eq_some_iff.mp hlast
    exact ⟨cs, by simp [hcs], .inr hcs⟩
  · exact ⟨directory.toList, by simp, .inl rfl⟩

/-- A path in a directory starts where the path of the directory does. -/
theorem start_join {directory : String} (h : directory ≠ "") (tree : FileTree) (name : String) :
    join directory name ≠ "" ∧ tree.start (join directory name) = tree.start directory := by
  have hprefix : directory.toList <+: (join directory name).toList := by
    unfold join
    split <;> simp [String.toList_append, List.append_assoc]
  obtain ⟨rest, hrest⟩ := hprefix
  obtain ⟨c, cs, hcs⟩ := List.exists_cons_of_ne_nil (l := directory.toList) (by simpa using h)
  constructor
  · intro hjoin
    simp [hjoin, hcs] at hrest
  · rw [FileTree.start, FileTree.start, ← hrest, hcs]
    rfl

/-- The name of a schema file leads into a directory. -/
theorem enter_of_hasSchemaEnding (h : HasSchemaEnding name) :
    FileTree.enter place name = place ++ [name] := by
  have hlength : 2 < name.toList.length := by
    obtain ⟨stem, -, rfl | rfl⟩ := h <;> rw [String.toList_append, List.length_append] <;> simp
  have hne : ∀ short : String, short.toList.length ≤ 2 → name ≠ short := by
    rintro short hshort rfl
    omega
  simp [FileTree.enter, hne "" (by decide), hne "." (by decide), hne ".." (by decide)]

/-- The path of a name in a directory leads to what has that name, if it may be a schema file. -/
theorem locate_join (htree : tree.WellFormed) (hname : HasSchemaEnding name) {entry : Entry}
    (hdirectory : tree.locate input = .ok (place, .directory))
    (hentry : tree.entry? (place ++ [name]) = some entry) :
    tree.locate (join input name) = .ok (place ++ [name], entry) := by
  obtain ⟨hpath, hwalk, hplace⟩ := FileTree.locate_eq_ok.mp hdirectory
  obtain ⟨hjoined, hstart⟩ := start_join hpath tree name
  obtain ⟨cs, hjoin, hinput⟩ := exists_toList_join input name
  have hseparator : '/' ∉ name.toList := htree.separated hentry name (by simp)
  have hfront :
      tree.walk (tree.start input) ((Text.pieces '/' cs).map String.ofList) = .ok place := by
    rcases hinput with hcs | hcs
    · rwa [FileTree.pathNames, hcs] at hwalk
    · -- an empty name behind the last separator stays in the directory
      rw [FileTree.pathNames_concat hcs (by decide)] at hwalk
      obtain ⟨middle, hmiddle, -, rfl⟩ := FileTree.walk_concat_eq_ok.mp hwalk
      exact hmiddle
  refine FileTree.locate_eq_ok.mpr ⟨hjoined, ?_, hentry⟩
  rw [hstart, FileTree.pathNames_concat hjoin hseparator]
  exact FileTree.walk_concat_eq_ok.mpr ⟨place, hfront, hplace, enter_of_hasSchemaEnding hname⟩

/-- The names of the schema files of a directory are those of the files that may be schema files. -/
theorem mem_schemaNames (htree : tree.WellFormed)
    (hdirectory : tree.locate input = .ok (place, .directory)) :
    name ∈ schemaNames tree.view input (tree.namesIn place) ↔ tree.HasSchemaFile place name := by
  rw [(schemaNames_perm _ _ _).mem_iff, List.mem_filter, Bool.and_eq_true, htree.mem_namesIn,
    isSchemaName_iff]
  constructor
  · rintro ⟨⟨entry, hentry⟩, hfile, hname⟩
    have hlocate := locate_join htree hname hdirectory hentry
    cases entry with
    | file content => exact ⟨hname, content, hentry⟩
    | directory => simp [FileTree.isFile_view, hlocate] at hfile
  · rintro ⟨hname, content, hentry⟩
    have hlocate := locate_join htree hname hdirectory hentry
    exact ⟨⟨_, hentry⟩, FileTree.isFile_view.mpr ⟨_, _, hlocate⟩, hname⟩

/-- The schema files of a directory are listed. -/
theorem listsSchemaFiles (htree : tree.WellFormed)
    (hdirectory : tree.locate input = .ok (place, .directory)) :
    tree.ListsSchemaFiles place (schemaNames tree.view input (tree.namesIn place)) := by
  constructor
  · have hdistinct : (schemaNames tree.view input (tree.namesIn place)).Pairwise (· ≠ ·) :=
      (schemaNames_perm _ _ _).nodup_iff.mpr ((htree.nodup_namesIn place).filter _)
    exact (pairwise_schemaNames tree.view input _).imp₂
      (fun _ _ hle hne => Text.bytes_lt_bytes (lt_of_le_of_ne hle hne)) hdistinct
  · exact fun name => mem_schemaNames htree hdirectory

/-- Bytes are read as the text that they are the bytes of. -/
theorem fromUTF8?_eq_some {text : String} :
    String.fromUTF8? content = some text ↔ content = text.toUTF8 := by
  unfold String.fromUTF8?
  split_ifs with hvalid
  · rw [Option.some.injEq, ← String.toByteArray_inj]
    rfl
  · simp only [false_iff]
    rintro rfl
    exact hvalid text.isValidUTF8

/-- Bytes cannot be read exactly if they are those of no text. -/
theorem fromUTF8?_eq_none :
    String.fromUTF8? content = none ↔ ∀ text : String, content ≠ text.toUTF8 := by
  simp only [Option.eq_none_iff_forall_ne_some, ne_eq, fromUTF8?_eq_some]

section File

variable {path text : String} {cause : ReadError}

/-- A file has a text that can be read or none. -/
theorem hasText_or_hasNoText (h : tree.entry? place = some (.file content)) :
    (∃ text, tree.HasText place text) ∨ ∃ cause, tree.HasNoText place cause := by
  cases hlookup : tree.barred.lookup place with
  | some error => exact .inr ⟨_, .barred h hlookup⟩
  | none =>
    cases hcontent : String.fromUTF8? content with
    | none => exact .inr ⟨_, .encoding h hlookup (fromUTF8?_eq_none.mp hcontent)⟩
    | some text =>
      rw [fromUTF8?_eq_some.mp hcontent] at h
      exact .inl ⟨text, h, hlookup⟩

/-- A file with a text is read as the source of that text. -/
theorem result_ofFile_of_hasText (hfile : tree.locate path = .ok (place, .file content))
    (h : tree.HasText place text) : (ofFile tree.view path).result = .ok ⟨path, text⟩ := by
  have hentry := (FileTree.locate_eq_ok.mp hfile).2.2
  rw [h.entry] at hentry
  cases hentry
  have hread : tree.view.read path = .ok text.toUTF8 := by
    rw [FileTree.read_view hfile, FileTree.opened_of_eq_none h.opens]
  simp only [ofFile, hread, Logged.result_bind, fromUTF8?_eq_some.mpr rfl]
  rfl

/-- A file without a text that can be read is refused, with the reason for that. -/
theorem result_ofFile_of_hasNoText (hfile : tree.locate path = .ok (place, .file content))
    (h : tree.HasNoText place cause) :
    (ofFile tree.view path).result = .error (.unreadable path cause) := by
  have hentry := (FileTree.locate_eq_ok.mp hfile).2.2
  cases h with
  | @barred _ error _ hbarred =>
    have hread : tree.view.read path = .error error := by
      rw [FileTree.read_view hfile, FileTree.opened_of_eq_some hbarred]
    simp only [ofFile, hread, Logged.result_bind]
    rfl
  | encoding hother hopens hcontent =>
    rw [hother] at hentry
    cases hentry
    have hread : tree.view.read path = .ok content := by
      rw [FileTree.read_view hfile, FileTree.opened_of_eq_none hopens]
    simp only [ofFile, hread, Logged.result_bind, fromUTF8?_eq_none.mpr hcontent]
    rfl

/-- A file is read as a source exactly if that has its path and its text. -/
theorem result_ofFile_eq_ok (hfile : tree.locate path = .ok (place, .file content))
    {source : Source} :
    (ofFile tree.view path).result = .ok source ↔
      source.origin = path ∧ tree.HasText place source.text := by
  constructor
  · intro h
    have hentry := (FileTree.locate_eq_ok.mp hfile).2.2
    rcases hasText_or_hasNoText hentry with ⟨text, htext⟩ | ⟨cause, hcause⟩
    · rw [result_ofFile_of_hasText hfile htext] at h
      cases h
      exact ⟨rfl, htext⟩
    · rw [result_ofFile_of_hasNoText hfile hcause] at h
      cases h
  · rintro ⟨rfl, htext⟩
    exact result_ofFile_of_hasText hfile htext

/-- A file is refused exactly for a reason for which it has no text that can be read. -/
theorem result_ofFile_eq_error (hfile : tree.locate path = .ok (place, .file content))
    {error : SourceError} :
    (ofFile tree.view path).result = .error error ↔
      ∃ cause, tree.HasNoText place cause ∧ error = .unreadable path cause := by
  constructor
  · intro h
    have hentry := (FileTree.locate_eq_ok.mp hfile).2.2
    rcases hasText_or_hasNoText hentry with ⟨text, htext⟩ | ⟨cause, hcause⟩
    · rw [result_ofFile_of_hasText hfile htext] at h
      cases h
    · rw [result_ofFile_of_hasNoText hfile hcause] at h
      cases h
      exact ⟨cause, hcause, rfl⟩
  · rintro ⟨cause, hcause, rfl⟩
    exact result_ofFile_of_hasNoText hfile hcause

end File

section Input

variable {error : SourceError} {cause : PathError} (hurl : isUrl input = false)
include hurl

/-- A path that leads nowhere is not read. -/
theorem result_ofInput_of_error (h : tree.locate input = .error cause) :
    (ofInput web tree.view input).result = .error (.unreadable input (.path cause)) := by
  have hdirectory : ¬ tree.view.isDirectory input := by simp [FileTree.isDirectory_view, h]
  rw [ofInput, if_neg (by simp [hurl]), if_neg hdirectory]
  simp only [Logged.result_bind, ofFile, FileTree.read_view_of_error h]
  rfl

/-- A file is the only source of its path. -/
theorem result_ofInput_of_file (h : tree.locate input = .ok (place, .file content)) :
    (ofInput web tree.view input).result =
      (ofFile tree.view input).result.map fun source => [source] := by
  have hdirectory : ¬ tree.view.isDirectory input := by simp [FileTree.isDirectory_view, h]
  rw [ofInput, if_neg (by simp [hurl]), if_neg hdirectory, Logged.result_bind]
  cases (ofFile tree.view input).result <;> rfl

/-- An input that is a directory is read as one. -/
theorem ofInput_eq_ofDirectory (h : tree.locate input = .ok (place, .directory)) :
    ofInput web tree.view input = ofDirectory tree.view input := by
  rw [ofInput, if_neg (by simp [hurl]), if_pos (FileTree.isDirectory_view.mpr ⟨place, h⟩)]

/-- A directory that cannot be listed is refused. -/
theorem result_ofInput_of_barred (h : tree.locate input = .ok (place, .directory))
    (hbarred : tree.barred.lookup place = some cause) :
    (ofInput web tree.view input).result = .error (.unreadable input (.path cause)) := by
  rw [ofInput_eq_ofDirectory hurl h, ofDirectory, FileTree.list_view h,
    FileTree.opened_of_eq_some hbarred]
  rfl

/-- A directory that can be listed has the sources of its schema files. -/
theorem result_ofInput_of_directory (h : tree.locate input = .ok (place, .directory))
    (hopens : tree.barred.lookup place = none)
    (hnames : schemaNames tree.view input (tree.namesIn place) = names) :
    (ofInput web tree.view input).result =
      if names = [] then .error (.emptyDirectory input)
      else names.mapM fun name => (ofFile tree.view (join input name)).result := by
  rw [ofInput_eq_ofDirectory hurl h, ofDirectory, FileTree.list_view h,
    FileTree.opened_of_eq_none hopens]
  dsimp only
  rw [hnames]
  cases names with
  | nil => rfl
  | cons first others => rw [Logged.result_mapM]; rfl

end Input

section Member

variable (htree : tree.WellFormed) (hdirectory : tree.locate input = .ok (place, .directory))
  (hfile : tree.HasSchemaFile place name)
include htree hdirectory hfile

/-- A schema file in a directory is read as a source exactly if that has its path and its text. -/
theorem result_ofFile_join_eq_ok {source : Source} :
    (ofFile tree.view (join input name)).result = .ok source ↔
      source.origin = join input name ∧ tree.HasText (place ++ [name]) source.text := by
  obtain ⟨hname, content, hentry⟩ := hfile
  exact result_ofFile_eq_ok (locate_join htree hname hdirectory hentry)

/-- A schema file in a directory is refused exactly for a reason for which it has no text. -/
theorem result_ofFile_join_eq_error {error : SourceError} :
    (ofFile tree.view (join input name)).result = .error error ↔
      ∃ cause, tree.HasNoText (place ++ [name]) cause ∧
        error = .unreadable (join input name) cause := by
  obtain ⟨hname, content, hentry⟩ := hfile
  exact result_ofFile_eq_error (locate_join htree hname hdirectory hentry)

end Member

/-- The sources of an input are those that it contributes. -/
theorem result_ofInput_eq_ok (htree : tree.WellFormed) (hurl : isUrl input = false)
    {sources : List Source} :
    (ofInput web tree.view input).result = .ok sources ↔ tree.Contributes input sources := by
  constructor
  · intro h
    cases hlocate : tree.locate input with
    | error cause =>
      rw [result_ofInput_of_error hurl hlocate] at h
      cases h
    | ok found =>
      obtain ⟨place, entry⟩ := found
      cases entry with
      | file content =>
        rw [result_ofInput_of_file hurl hlocate, Fallible.map_eq_ok] at h
        obtain ⟨⟨origin, text⟩, hsource, rfl⟩ := h
        obtain ⟨rfl, htext⟩ := (result_ofFile_eq_ok hlocate).mp hsource
        exact .file hlocate htext
      | directory =>
        cases hlookup : tree.barred.lookup place with
        | some cause =>
          rw [result_ofInput_of_barred hurl hlocate hlookup] at h
          cases h
        | none =>
          have hlists := listsSchemaFiles htree hlocate
          rw [result_ofInput_of_directory hurl hlocate hlookup rfl] at h
          split_ifs at h with hnone
          refine .directory hlocate hlookup hlists hnone ?_
          exact (Fallible.mapM_eq_ok_of_mem fun name hname source =>
            result_ofFile_join_eq_ok htree hlocate ((hlists.mem name).mp hname)).mp h
  · intro h
    cases h with
    | file hfile htext =>
      rw [result_ofInput_of_file hurl hfile, result_ofFile_of_hasText hfile htext]
      rfl
    | directory hdirectory hopens hnames hany hsources =>
      have hlists := (listsSchemaFiles htree hdirectory).unique hnames
      rw [result_ofInput_of_directory hurl hdirectory hopens hlists, if_neg hany]
      exact (Fallible.mapM_eq_ok_of_mem fun name hname source =>
        result_ofFile_join_eq_ok htree hdirectory ((hnames.mem name).mp hname)).mpr hsources

/-- An input fails as it refuses to contribute. -/
theorem result_ofInput_eq_error (htree : tree.WellFormed) (hurl : isUrl input = false)
    {error : SourceError} :
    (ofInput web tree.view input).result = .error error ↔ tree.Refuses input error := by
  constructor
  · intro h
    cases hlocate : tree.locate input with
    | error cause =>
      rw [result_ofInput_of_error hurl hlocate] at h
      cases h
      exact .path hlocate
    | ok found =>
      obtain ⟨place, entry⟩ := found
      cases entry with
      | file content =>
        rw [result_ofInput_of_file hurl hlocate, Fallible.map_eq_error,
          result_ofFile_eq_error hlocate] at h
        obtain ⟨cause, hcause, rfl⟩ := h
        exact .file hlocate hcause
      | directory =>
        cases hlookup : tree.barred.lookup place with
        | some cause =>
          rw [result_ofInput_of_barred hurl hlocate hlookup] at h
          cases h
          exact .directory hlocate hlookup
        | none =>
          have hlists := listsSchemaFiles htree hlocate
          rw [result_ofInput_of_directory hurl hlocate hlookup rfl] at h
          split_ifs at h with hnone
          · cases h
            refine .emptyDirectory hlocate hlookup fun name hfile => ?_
            have hmem := (hlists.mem name).mpr hfile
            rw [hnone] at hmem
            cases hmem
          · obtain ⟨front, name, back, hsplit, hfront, hname⟩ := Fallible.mapM_eq_error.mp h
            rw [hsplit] at hlists
            have hfile := (hlists.mem name).mp (by simp)
            obtain ⟨cause, hcause, rfl⟩ :=
              (result_ofFile_join_eq_error htree hlocate hfile).mp hname
            refine .member hlocate hlookup hfile hcause fun earlier hother hlt => ?_
            obtain ⟨source, hsource⟩ := hfront earlier (hlists.mem_front.mpr ⟨hother, hlt⟩)
            exact ⟨_, ((result_ofFile_join_eq_ok htree hlocate hother).mp hsource).2⟩
  · intro h
    cases h with
    | path hpath => exact result_ofInput_of_error hurl hpath
    | file hfile hcause =>
      rw [result_ofInput_of_file hurl hfile, result_ofFile_of_hasNoText hfile hcause]
      rfl
    | directory hdirectory hbarred => exact result_ofInput_of_barred hurl hdirectory hbarred
    | @emptyDirectory place hdirectory hopens hnone =>
      have hempty : schemaNames tree.view input (tree.namesIn place) = [] := by
        rw [List.eq_nil_iff_forall_not_mem]
        exact fun name hname => hnone name ((mem_schemaNames htree hdirectory).mp hname)
      rw [result_ofInput_of_directory hurl hdirectory hopens hempty, if_pos rfl]
    | @member place name cause hdirectory hopens hfile hcause hfirst =>
      have hlists := listsSchemaFiles htree hdirectory
      obtain ⟨front, back, hsplit⟩ := List.append_of_mem ((hlists.mem name).mpr hfile)
      rw [result_ofInput_of_directory hurl hdirectory hopens hsplit, if_neg (by simp)]
      rw [hsplit] at hlists
      refine Fallible.mapM_eq_error.mpr ⟨front, name, back, rfl, fun earlier hearlier => ?_, ?_⟩
      · obtain ⟨hother, hlt⟩ := hlists.mem_front.mp hearlier
        obtain ⟨text, htext⟩ := hfirst earlier hother hlt
        exact ⟨⟨_, text⟩, (result_ofFile_join_eq_ok htree hdirectory hother).mpr ⟨rfl, htext⟩⟩
      · exact (result_ofFile_join_eq_error htree hdirectory hfile).mpr ⟨cause, hcause, rfl⟩

/-- Loading gives the sources of the inputs, one after the other. -/
theorem result_load (web : Web) (files : FileView) (inputs : List String) :
    (load web files inputs).result =
      (inputs.mapM fun input => (ofInput web files input).result).map List.flatten := by
  unfold load
  rw [Logged.result_bind, Logged.result_mapM]
  cases inputs.mapM fun input => (ofInput web files input).result <;> rfl

/-- Whatever order the names in its directories are shown in, loading from a tree gives what the
inputs contribute, one after the other, or fails as the first input does that refuses to. -/
theorem load_contributions (web : Web) (htree : tree.WellFormed) (hfiles : tree.ShownBy files)
    {inputs : List String} (hinputs : ∀ input ∈ inputs, isUrl input = false) :
    load web files inputs = load web tree.view inputs ∧
      (∀ sources, (load web files inputs).result = .ok sources ↔
        ∃ parts, List.Forall₂ tree.Contributes inputs parts ∧ sources = parts.flatten) ∧
      (∀ error, (load web files inputs).result = .error error ↔
        ∃ front input back, inputs = front ++ input :: back ∧
          (∀ earlier ∈ front, ∃ sources, tree.Contributes earlier sources) ∧
          tree.Refuses input error) ∧
      ((∃ error, (load web files inputs).result = .error error) ↔
        ∃ input ∈ inputs, ∃ error, tree.Refuses input error) := by
  have hload := load_eq web hfiles inputs
  have hcontributes : ∀ input ∈ inputs, ∀ sources,
      (ofInput web tree.view input).result = .ok sources ↔ tree.Contributes input sources :=
    fun input hinput _ => result_ofInput_eq_ok htree (hinputs input hinput)
  have hrefuses : ∀ error, ∀ input ∈ inputs,
      (ofInput web tree.view input).result = .error error ↔ tree.Refuses input error :=
    fun _ input hinput => result_ofInput_eq_error htree (hinputs input hinput)
  have herror : ∀ error, (load web files inputs).result = .error error ↔
      ∃ front input back, inputs = front ++ input :: back ∧
        (∀ earlier ∈ front, ∃ sources, tree.Contributes earlier sources) ∧
        tree.Refuses input error := by
    intro error
    rw [hload, result_load, Fallible.map_eq_error,
      Fallible.mapM_eq_error_of_mem hcontributes (hrefuses error)]
  refine ⟨hload, fun sources => ?_, herror, ?_⟩
  · rw [hload, result_load, Fallible.map_eq_ok]
    simp only [Fallible.mapM_eq_ok_of_mem hcontributes, eq_comm]
  · constructor
    · rintro ⟨error, h⟩
      obtain ⟨front, input, back, rfl, -, hinput⟩ := (herror error).mp h
      exact ⟨input, by simp, error, hinput⟩
    · rintro ⟨input, hinput, error, hrefused⟩
      cases hresult : (load web files inputs).result with
      | error error => exact ⟨error, rfl⟩
      | ok sources =>
        rw [hload, result_load, Fallible.map_eq_ok] at hresult
        obtain ⟨parts, hparts, -⟩ := hresult
        obtain ⟨part, hpart⟩ := Fallible.exists_eq_ok_of_mapM_eq_ok hparts hinput
        rw [(hrefuses error input hinput).mpr hrefused] at hpart
        cases hpart

/-- A tree may be shown with the names in each directory backwards. -/
theorem shownBy_reverse (tree : FileTree) : tree.ShownBy
    { tree.view with list := fun path => (tree.view.list path).map List.reverse } := by
  refine ⟨fun _ => rfl, fun _ => rfl, fun path => ?_, fun _ => rfl⟩
  dsimp only
  cases tree.view.list path with
  | error error => exact .refused error
  | ok names => exact .listed (List.reverse_perm names)

/-- A directory at the root that is shown backwards contributes its two schema files in order, and
then a file in the working directory its text. -/
theorem load_contributions_backwards :
    let web : Web := ⟨fun _ => .error ⟨"builder error", []⟩⟩
    let tree : FileTree := ⟨[(["w"], .directory), (["w", "q.graphql"], .file "Q".toUTF8),
      (["d"], .directory), (["d", "b.graphqls"], .file "B".toUTF8),
      (["d", "notes.txt"], .file "N".toUTF8), (["d", "c.graphql"], .directory),
      (["d", "a.graphql"], .file "A".toUTF8), (["d", ".graphql"], .file "C".toUTF8)], ["w"], []⟩
    let files := { tree.view with list := fun path => (tree.view.list path).map List.reverse }
    tree.WellFormed ∧ tree.ShownBy files ∧
      (∀ input ∈ ["/d/", "q.graphql"], isUrl input = false) ∧
      (load web files ["/d/", "q.graphql"]).result =
        .ok [⟨"/d/a.graphql", "A"⟩, ⟨"/d/b.graphqls", "B"⟩, ⟨"q.graphql", "Q"⟩] := by
  intro web tree files
  have htree : tree.WellFormed := by
    refine ⟨by decide +kernel, ?_, ?_⟩ <;> simp only [FileTree.Separated] <;> decide +kernel
  have hfiles : tree.ShownBy files := shownBy_reverse tree
  have hinputs : ∀ input ∈ ["/d/", "q.graphql"], isUrl input = false := by decide +kernel
  have hplace : tree.locate "/d/" = .ok (["d"], .directory) := rfl
  have hnames : tree.ListsSchemaFiles ["d"] ["a.graphql", "b.graphqls"] := by
    have hlists := listsSchemaFiles htree hplace
    have hfiltered : (tree.namesIn ["d"]).filter (fun name =>
        tree.view.isFile (join "/d/" name) && isSchemaName name) =
          ["b.graphqls", "a.graphql"] := by
      decide +kernel
    refine ⟨by decide +kernel, fun name => ?_⟩
    rw [← hlists.mem, (schemaNames_perm _ _ _).mem_iff, hfiltered]
    exact (List.Perm.swap _ _ _).mem_iff
  have hdirectory : tree.Contributes "/d/" [⟨"/d/a.graphql", "A"⟩, ⟨"/d/b.graphqls", "B"⟩] :=
    .directory hplace rfl hnames (by simp) (.cons ⟨by decide +kernel, rfl, rfl⟩
      (.cons ⟨by decide +kernel, rfl, rfl⟩ .nil))
  have hlast : tree.locate "q.graphql" = .ok (["w", "q.graphql"], .file "Q".toUTF8) := rfl
  have hfile : tree.Contributes "q.graphql" [⟨"q.graphql", "Q"⟩] := .file hlast ⟨rfl, rfl⟩
  obtain ⟨-, hok, -⟩ := load_contributions web htree hfiles hinputs
  exact ⟨htree, hfiles, hinputs, (hok _).mpr ⟨_, .cons hdirectory (.cons hfile .nil), rfl⟩⟩

end Source

end SdlCodegen
