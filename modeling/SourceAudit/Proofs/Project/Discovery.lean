import SourceAudit.Proofs.Audit.Accounting
import SourceAudit.Proofs.Audit.Order
import SourceAudit.Proofs.Project.Ignoring
import SourceAudit.Proofs.Project.Writing
import Mathlib.Data.List.Lex
import Mathlib.Data.List.Sort

/-!
# Which files are found

The files that are found below a path, on a disk whose files and directories form a tree.

* `Disk.mem_directoriesIn_iff`, `Disk.mem_filesIn_iff`: what is in a directory is what the names
  of files and directories lead through.
* `Disk.mem_walk_succ_iff`, `Disk.mem_walk_iff`: one level of the walk, and the ways to files
  that the whole walk goes.
* `pairwise_discover`: the files come in ascending order.
* `discover_of_isTree`: which files are found, how they are put together from what is found
  below the entries of a directory, and what becomes of them with fewer languages and more
  patterns.
-/

namespace SourceAudit

open Text

/-! ### The order of names -/

/-- Lists of names are compared as in a dictionary. -/
theorem textsLe_iff (as bs : List String) :
  textsLe as bs = true ↔ as ≤ bs
  := by
  rw [← not_lt]
  induction as generalizing bs with
  | nil => simp [textsLe]
  | cons a as ih =>
      cases bs with
      | nil => simp [textsLe]
      | cons b bs =>
          rw [textsLe, List.cons_lt_cons_iff]
          by_cases h : a = b
          · rw [if_pos h, ih bs]
            simp [h]
          · rw [if_neg h, textLe_iff, ← not_lt]
            simp [Ne.symm h]

/-! ### What is in a directory -/

/-- Names lead to a directory above the end of a way when they are the first of its names and not
all of them. -/
theorem prefix_dropLast_iff {names way : List String} (hne : names ≠ []) :
  names <+: way.dropLast ↔ names <+: way ∧ names.length < way.length
  := by
  constructor
  · intro hlead
    use hlead.trans (List.dropLast_prefix way)
    have hle := hlead.length_le
    have hpos := List.length_pos_iff.mpr hne
    rw [List.length_dropLast] at hle
    omega
  · rintro ⟨hlead, hlt⟩
    exact prefix_dropLast_of_length_lt hlead hlt

/-- The way leads through no directory that is passed over. -/
def IsUnskipped (names : List String) : Prop :=
  ∀ name ∈ names.dropLast, name ∉ skippedDirectories

theorem isUnskipped_singleton (name : String) :
  IsUnskipped [name]
  := List.forall_mem_nil _

theorem isUnskipped_cons_iff {name : String} {names : List String} (hne : names ≠ []) :
  IsUnskipped (name :: names) ↔ name ∉ skippedDirectories ∧ IsUnskipped names
  := by
  rw [IsUnskipped, List.dropLast_cons_of_ne_nil hne, List.forall_mem_cons]
  exact Iff.rfl

namespace Disk

variable {d : Disk} {place names : List String} {name : String}

theorem onward?_eq_some_iff {rest : List String} :
  onward? place names = some rest ↔ names = place ++ rest
  := by
  rw [onward?]
  constructor
  · intro h
    split at h
    · rename_i hbelow
      obtain ⟨rest', rfl⟩ := List.isPrefixOf_iff_prefix.mp hbelow
      rw [List.drop_left, Option.some_inj] at h
      rw [h]
    · cases h
  · rintro rfl
    rw [if_pos (List.isPrefixOf_iff_prefix.mpr (List.prefix_append _ _)), List.drop_left]

/-- The names lead to a file. -/
def HasFile (d : Disk) (names : List String) : Prop :=
  names ∈ d.files.map (·.1)

theorem isFile_iff {p : Path} :
  d.isFile p = true ↔ d.HasFile (d.placeOf p)
  := by
  rw [isFile, HasFile, List.any_eq_true, List.mem_map]
  simp only [beq_iff_eq]

/-- Names lead to a directory when they begin a way to a directory that holds a file or that is
there anyway. -/
theorem isDirectoryAt_iff_exists_way (hne : names ≠ []) :
  d.isDirectoryAt names = true
    ↔ ∃ way ∈ d.files.map (·.1.dropLast) ++ d.directories, names <+: way
  := by
  rw [isDirectoryAt_iff, or_iff_right hne, or_comm]
  simp only [← prefix_dropLast_iff hne, List.mem_append, or_and_right, exists_or, List.mem_map,
    exists_exists_and_eq_and]

theorem mem_filesIn_iff :
  name ∈ d.filesIn place ↔ d.HasFile (place ++ [name])
  := by
  rw [filesIn, List.mem_filterMap, HasFile, List.mem_map]
  apply exists_congr
  rintro ⟨names, octets⟩
  apply and_congr_right
  intro _
  rw [← onward?_eq_some_iff]
  dsimp only
  constructor
  · intro h
    split at h
    · rename_i first honward
      cases h
      exact honward
    · cases h
  · intro h
    rw [h]

theorem mem_directoriesIn_iff :
  name ∈ d.directoriesIn place ↔ d.isDirectoryAt (place ++ [name]) = true
  := by
  rw [directoriesIn, mem_distinct, List.mem_filterMap,
    isDirectoryAt_iff_exists_way (List.append_ne_nil_of_right_ne_nil _ (List.cons_ne_nil _ _))]
  apply exists_congr
  intro way
  apply and_congr_right
  intro _
  rw [Option.bind_eq_some_iff]
  constructor
  · rintro ⟨rest, honward, hhead⟩
    obtain ⟨rest, rfl⟩ := List.head?_eq_some_iff.mp hhead
    rw [onward?_eq_some_iff.mp honward]
    exact ⟨rest, (List.append_cons place name rest).symm⟩
  · rintro ⟨rest, rfl⟩
    use name :: rest
    rw [onward?_eq_some_iff, List.append_assoc]
    exact ⟨rfl, rfl⟩

/-- The way to a file leads through directories. -/
theorem HasFile.isDirectoryAt {rest : List String} (h : d.HasFile (names ++ rest))
    (hrest : rest ≠ []) :
  d.isDirectoryAt names = true
  := by
  by_cases hne : names = []
  · rw [hne]
    rfl
  · obtain ⟨file, hfile, hway⟩ := List.mem_map.mp h
    apply (isDirectoryAt_iff_exists_way hne).mpr
    use file.1.dropLast, List.mem_append_left _ (List.mem_map_of_mem hfile)
    rw [hway, List.dropLast_append_of_ne_nil hrest]
    exact List.prefix_append _ _

theorem HasFile.length_le_depth (h : d.HasFile names) :
  names.length ≤ d.depth
  := by
  obtain ⟨file, hfile, rfl⟩ := List.mem_map.mp h
  rw [depth]
  generalize d.files = files at hfile
  induction files with
  | nil => cases hfile
  | cons first files ih =>
      rw [List.foldr_cons]
      rcases List.mem_cons.mp hfile with rfl | hfile
      · exact le_max_left _ _
      · exact le_max_of_le_right (ih hfile)

/-! ### The walk -/

/-- One level of the walk goes to the files of a directory and down into the directories in it
that are not passed over. -/
theorem mem_walk_succ_iff {levels : Nat} :
  names ∈ d.walk (levels + 1) place
    ↔ (∃ name, d.HasFile (place ++ [name]) ∧ names = [name])
      ∨ ∃ name, d.isDirectoryAt (place ++ [name]) = true ∧ name ∉ skippedDirectories
        ∧ ∃ rest ∈ d.walk levels (place ++ [name]), names = name :: rest
  := by
  rw [walk, List.mem_append, List.mem_map, List.mem_flatMap]
  simp only [sortTexts, List.mem_mergeSort, List.mem_filter, List.mem_map, mem_filesIn_iff,
    mem_directoriesIn_iff, Bool.not_eq_true', Bool.eq_false_iff, ne_eq, List.contains_iff_mem,
    and_assoc, @eq_comm _ names]

/-- The walk goes the ways to the files below a directory that lead through no directory that is
passed over and have no more names than levels are gone down. -/
theorem mem_walk_iff {levels : Nat} :
  names ∈ d.walk levels place
    ↔ names ≠ [] ∧ names.length ≤ levels ∧ d.HasFile (place ++ names) ∧ IsUnskipped names
  := by
  induction levels generalizing place names with
  | zero =>
      rw [walk]
      constructor
      · intro h
        cases h
      · rintro ⟨hne, hlength, -⟩
        exact absurd (List.length_eq_zero_iff.mp (Nat.le_zero.mp hlength)) hne
  | succ levels ih =>
      rw [mem_walk_succ_iff]
      constructor
      · rintro (⟨name, hfile, rfl⟩ | ⟨name, -, hkept, rest, hrest, rfl⟩)
        · refine ⟨List.cons_ne_nil _ _, ?_, hfile, ?_⟩
          · exact Nat.le_add_left 1 levels
          · exact isUnskipped_singleton name
        · obtain ⟨hne, hlength, hfile, hopen⟩ := ih.mp hrest
          rw [List.append_assoc, List.singleton_append] at hfile
          exact ⟨List.cons_ne_nil _ _, Nat.succ_le_succ hlength, hfile,
            (isUnskipped_cons_iff hne).mpr ⟨hkept, hopen⟩⟩
      · rintro ⟨hne, hlength, hfile, hopen⟩
        obtain ⟨name, rest, rfl⟩ := List.exists_cons_of_ne_nil hne
        -- a last name is that of a file, and only names before it are those of directories
        by_cases hrest : rest = []
        · left
          subst hrest
          exact ⟨name, hfile, rfl⟩
        · right
          rw [List.append_cons] at hfile
          obtain ⟨hkept, hopen⟩ := (isUnskipped_cons_iff hrest).mp hopen
          use name, hfile.isDirectoryAt hrest, hkept, rest
          exact ⟨ih.mpr ⟨hrest, Nat.le_of_succ_le_succ hlength, hfile, hopen⟩, rfl⟩

/-! ### Trees -/

/-- The files and directories of a disk form a tree: no way to a file leads back up, and what is
a file is no directory. -/
structure IsTree (d : Disk) : Prop where
  no_dots : ∀ names ∈ d.files.map (·.1), ".." ∉ names
  file_no_directory : ∀ names ∈ d.files.map (·.1), d.isDirectoryAt names = false

theorem placeOf_append (h : ".." ∉ names) {p : Path} :
  d.placeOf (p ++ Path.relative names) = d.placeOf p ++ names
  := by
  rw [placeOf, Path.resolve_append_relative h]
  rfl

/-- In a tree nothing is below a file. -/
theorem IsTree.eq_nil_of_hasFile (htree : d.IsTree) (h : d.HasFile place)
    (hbelow : d.HasFile (place ++ names)) :
  names = []
  := by
  by_contra hne
  have hdirectory := hbelow.isDirectoryAt hne
  rw [htree.file_no_directory place h] at hdirectory
  cases hdirectory

end Disk

/-! ### Files below a scan path -/

/-- The path is the scan path or lies below it and is a file, and none of the directories below
the scan path that lead to it is passed over. -/
def IsReached (d : Disk) (scanPath p : Path) : Prop :=
  ∃ names, p = scanPath ++ Path.relative names ∧ ".." ∉ names ∧ d.isFile p = true
    ∧ IsUnskipped names

/-- The file is in the dialect of an enabled language, and no pattern ignores it. -/
def IsWanted (d : Disk) (target : Target) (p : Path) : Prop :=
  (∃ dialect, dialectOf? p = some dialect ∧ dialect.language ∈ target.config.languages)
    ∧ isIgnored d.cwd target.root target.config.ignorePaths p = false

section

variable {d : Disk} {target : Target} {scanPath p : Path}

theorem append_relative_nil :
  scanPath ++ Path.relative [] = scanPath
  := by
  rw [Path.append_relative, List.append_nil]

theorem append_relative_cons (name : String) (names : List String) :
  scanPath ++ Path.relative (name :: names)
    = (scanPath ++ Path.relative [name]) ++ Path.relative names
  := by
  rw [Path.append_relative, Path.append_relative, Path.append_relative, List.append_cons]

theorem mem_suffixesOf_iff {languages : List Language} {suffix : String} :
  suffix ∈ suffixesOf languages
    ↔ ∃ dialect, dialects.lookup suffix = some dialect ∧ dialect.language ∈ languages
  := by
  constructor
  · exact exists_lookup_of_mem_suffixesOf
  · rintro ⟨dialect, hlookup, hlanguage⟩
    obtain ⟨before, after, hdialects, -⟩ := List.lookup_eq_some_iff.mp hlookup
    apply List.mem_map.mpr
    use (suffix, dialect)
    rw [List.mem_filter, hdialects]
    exact ⟨⟨by simp, List.contains_iff_mem.mpr hlanguage⟩, rfl⟩

theorem isExamined_iff :
  isExamined d target p = true ↔ IsWanted d target p
  := by
  rw [isExamined, Bool.and_eq_true, List.contains_iff_mem, mem_suffixesOf_iff, Bool.not_eq_true']
  exact Iff.rfl

/-- The candidates of a tree are the files that are reached. -/
theorem mem_candidates_iff (htree : d.IsTree) :
  p ∈ candidates d scanPath ↔ IsReached d scanPath p
  := by
  rw [candidates]
  split
  · rename_i hfile
    rw [List.mem_singleton]
    constructor
    · rintro rfl
      use []
      exact ⟨append_relative_nil.symm, List.not_mem_nil, hfile, List.forall_mem_nil _⟩
    · rintro ⟨names, rfl, hdots, hbelow, -⟩
      rw [Disk.isFile_iff] at hfile hbelow
      rw [Disk.placeOf_append hdots] at hbelow
      rw [htree.eq_nil_of_hasFile hfile hbelow, append_relative_nil]
  · rename_i hfile
    simp only [List.mem_map, Disk.mem_walk_iff]
    constructor
    · rintro ⟨names, ⟨-, -, hbelow, hopen⟩, rfl⟩
      have hdots : ".." ∉ names := by
        have hall := htree.no_dots _ hbelow
        rw [List.mem_append, not_or] at hall
        exact hall.2
      use names
      rw [Disk.isFile_iff, Disk.placeOf_append hdots]
      exact ⟨rfl, hdots, hbelow, hopen⟩
    · rintro ⟨names, rfl, hdots, hbelow, hopen⟩
      have hne : names ≠ [] := by
        rintro rfl
        rw [append_relative_nil] at hbelow
        exact hfile hbelow
      rw [Disk.isFile_iff, Disk.placeOf_append hdots] at hbelow
      have hlength := hbelow.length_le_depth
      rw [List.length_append] at hlength
      exact ⟨names, ⟨hne, by omega, hbelow, hopen⟩, rfl⟩

theorem mem_discover_iff_isReached (htree : d.IsTree) :
  p ∈ discover d target ↔ IsReached d target.scanPath p ∧ IsWanted d target p
  := by
  rw [mem_discover_iff, mem_candidates_iff htree, isExamined_iff]

theorem anchor_of_mem_candidates (h : p ∈ candidates d scanPath) :
  p.anchor = scanPath.anchor
  := by
  rw [candidates] at h
  split at h
  · rw [List.mem_singleton.mp h]
  · obtain ⟨names, -, rfl⟩ := List.mem_map.mp h
    rfl

/-- The files that are found are in ascending order. -/
theorem pairwise_discover (d : Disk) (target : Target) :
  (discover d target).Pairwise fun p q => p.names < q.names
  := by
  have hsorted : (discover d target).Pairwise fun p q => p.le q = true := by
    apply List.pairwise_mergeSort
    · intro p q r
      simp only [Path.le, textsLe_iff]
      exact le_trans
    · intro p q
      simp only [Path.le, Bool.or_eq_true, textsLe_iff]
      exact le_total _ _
  have hboth := List.pairwise_and_iff.mpr ⟨hsorted, nodup_discover d target⟩
  apply hboth.imp_of_mem
  rintro p q hp hq ⟨hle, hne⟩
  rw [Path.le, textsLe_iff] at hle
  apply lt_of_le_of_ne hle
  intro hnames
  have hanchor := anchor_of_mem_candidates ((mem_discover_iff _ _ _).mp hp).1
  rw [← anchor_of_mem_candidates ((mem_discover_iff _ _ _).mp hq).1] at hanchor
  apply hne
  cases p
  cases q
  cases hanchor
  cases hnames
  rfl

/-- The entries of a directory that a walk from it goes to: its files, and those of its
directories that are not passed over. -/
def IsEntered (d : Disk) (scanPath : Path) (name : String) : Prop :=
  name ≠ ".." ∧ (d.isFile (scanPath ++ Path.relative [name]) = true
    ∨ d.isDirectory (scanPath ++ Path.relative [name]) = true ∧ name ∉ skippedDirectories)

/-- What is reached from a directory is what is reached from the entries that are gone to. -/
theorem isReached_iff_of_isFile_eq_false (htree : d.IsTree) (h : d.isFile scanPath = false) :
  IsReached d scanPath p
    ↔ ∃ name, IsEntered d scanPath name ∧ IsReached d (scanPath ++ Path.relative [name]) p
  := by
  constructor
  · rintro ⟨names, rfl, hdots, hfile, hopen⟩
    obtain ⟨name, rest, rfl⟩ : ∃ name rest, names = name :: rest := by
      apply List.exists_cons_of_ne_nil
      rintro rfl
      rw [append_relative_nil, h] at hfile
      cases hfile
    obtain ⟨hname, hrest⟩ := not_or.mp (mt List.mem_cons.mpr hdots)
    use name
    by_cases hlast : rest = []
    · subst hlast
      constructor
      · exact ⟨Ne.symm hname, Or.inl hfile⟩
      · exact ⟨[], append_relative_nil.symm, hrest, hfile, List.forall_mem_nil _⟩
    · obtain ⟨hkept, hopen⟩ := (isUnskipped_cons_iff hlast).mp hopen
      constructor
      · rw [Disk.isFile_iff, Disk.placeOf_append hdots, List.append_cons] at hfile
        refine ⟨Ne.symm hname, Or.inr ⟨?_, hkept⟩⟩
        rw [Disk.isDirectory, Disk.placeOf_append (by simpa using hname)]
        exact hfile.isDirectoryAt hlast
      · exact ⟨rest, append_relative_cons _ _, hrest, hfile, hopen⟩
  · rintro ⟨name, ⟨hname, hentered⟩, rest, rfl, hrest, hfile, hopen⟩
    have hdots : ".." ∉ name :: rest := by
      rw [List.mem_cons, not_or]
      exact ⟨Ne.symm hname, hrest⟩
    use name :: rest, (append_relative_cons _ _).symm, hdots, hfile
    by_cases hlast : rest = []
    · rw [hlast]
      exact isUnskipped_singleton name
    · refine (isUnskipped_cons_iff hlast).mpr ⟨?_, hopen⟩
      -- nothing lies below an entry that is a file, so one with more names is a directory
      rcases hentered with hentry | ⟨-, hkept⟩
      · rw [Disk.isFile_iff] at hentry hfile
        rw [Disk.placeOf_append hrest] at hfile
        exact absurd (htree.eq_nil_of_hasFile hentry hfile) hlast
      · exact hkept

/-- With fewer languages and more patterns, less is wanted. -/
theorem IsWanted.of_subset {config : Config} (h : IsWanted d { target with config } p)
    (hlanguages : config.languages ⊆ target.config.languages)
    (hpatterns : target.config.ignorePaths ⊆ config.ignorePaths) :
  IsWanted d target p
  := by
  obtain ⟨⟨dialect, hdialect, hlanguage⟩, hkept⟩ := h
  use ⟨dialect, hdialect, hlanguages hlanguage⟩
  rw [Bool.eq_false_iff] at hkept ⊢
  intro hignored
  apply hkept
  apply isIgnored_of_subset _ hignored
  intro pattern hpattern
  exact ⟨pattern, hpatterns hpattern, .refl pattern⟩

/-- Of two lists in ascending order of names, one that holds no more than the other is a part of
it. -/
theorem discover_sublist_of_subset {target' : Target}
    (h : discover d target' ⊆ discover d target) :
  (discover d target').Sublist (discover d target)
  := by
  have hantisymm : Std.Antisymm fun p q : Path => p.names < q.names :=
    ⟨fun p q hpq hqp => absurd hqp (lt_asymm hpq)⟩
  exact List.sublist_of_subperm_of_pairwise (List.subperm_of_subset (nodup_discover _ _) h)
    (pairwise_discover _ _) (pairwise_discover _ _)

end

/-- On a disk that is a tree, the files that are found are in strictly ascending order, and they
are the wanted files at or below the scan path that no directory passed over stands between. A
scan path that is a file has to be wanted only. What is found below a directory is what is found
below its files and those of its directories that are not passed over. With fewer languages or
more patterns some of the same files are found, in the same order. -/
theorem discover_of_isTree {d : Disk} (htree : d.IsTree) (target : Target) :
  (discover d target).Pairwise (fun p q => p.names < q.names)
  ∧ (discover d target).Nodup
  ∧ (∀ p, p ∈ discover d target ↔ IsReached d target.scanPath p ∧ IsWanted d target p)
  ∧ (d.isFile target.scanPath = true → ∀ p,
    (p ∈ discover d target ↔ p = target.scanPath ∧ IsWanted d target p))
  ∧ (d.isFile target.scanPath = false → ∀ p,
    (p ∈ discover d target
      ↔ ∃ name, IsEntered d target.scanPath name
        ∧ p ∈ discover d { target with scanPath := target.scanPath ++ Path.relative [name] }))
  ∧ ∀ config : Config, config.languages ⊆ target.config.languages →
    target.config.ignorePaths ⊆ config.ignorePaths →
    (discover d { target with config }).Sublist (discover d target)
  := by
  refine ⟨pairwise_discover d target, nodup_discover d target, ?_, ?_, ?_, ?_⟩
  · intro p
    exact mem_discover_iff_isReached htree
  · intro hfile p
    rw [mem_discover_iff, isExamined_iff, candidates, if_pos hfile, List.mem_singleton]
  · intro hfile p
    simp only [mem_discover_iff_isReached htree]
    rw [isReached_iff_of_isFile_eq_false htree hfile, exists_and_right.symm]
    simp only [and_assoc]
    rfl
  · intro config hlanguages hpatterns
    apply discover_sublist_of_subset
    intro p hp
    obtain ⟨hreached, hwanted⟩ := (mem_discover_iff_isReached htree).mp hp
    exact (mem_discover_iff_isReached htree).mpr
      ⟨hreached, hwanted.of_subset hlanguages hpatterns⟩

/-- A scan of a directory that would be passed over if it stood below: a file in it is found, one
below a directory to be passed over is found by a scan of that directory only, and one that a
pattern ignores is found without the pattern only. -/
theorem discover_of_isTree_in_skipped_directory :
  let file := Path.absolute ["p", "dist", "a.ts"]
  let hidden := Path.absolute ["p", "dist", "src", "out", "b.ts"]
  let ignored := Path.absolute ["p", "dist", "gen", "c.ts"]
  let d : Disk := {
    files := [(file.names, []), (hidden.names, []), (ignored.names, [])]
    directories := [["p", "out"]] }
  let target : Target := {
    root := .absolute ["p"], scanPath := .absolute ["p", "dist"]
    config := { ignorePaths := ["dist/gen/"] } }
  let within : Target := { target with scanPath := .absolute ["p", "dist", "src", "out"] }
  let free : Target := { target with config := {} }
  d.IsTree ∧ file ∈ discover d target
    ∧ hidden ∉ discover d target ∧ hidden ∈ discover d within
    ∧ ignored ∉ discover d target ∧ ignored ∈ discover d free
    ∧ (discover d target).Sublist (discover d free)
  := by
  intro file hidden ignored d target within free
  have htree : d.IsTree := ⟨by decide, by decide⟩
  obtain ⟨-, -, hfound, -⟩ := discover_of_isTree htree target
  obtain ⟨-, -, hwithin, -⟩ := discover_of_isTree htree within
  obtain ⟨-, -, hfree, -, -, hless⟩ := discover_of_isTree htree free
  refine ⟨htree, ?_, ?_, ?_, ?_, ?_, ?_⟩
  · apply (hfound file).mpr
    refine ⟨⟨["a.ts"], rfl, by decide, by decide +kernel, ?_⟩,
      isExamined_iff.mp (by decide +kernel)⟩
    exact isUnskipped_singleton "a.ts"
  · intro h
    obtain ⟨⟨names, hnames, -, -, hopen⟩, -⟩ := (hfound hidden).mp h
    have hway : ["p", "dist"] ++ ["src", "out", "b.ts"] = ["p", "dist"] ++ names :=
      congrArg Path.names hnames
    rw [← List.append_cancel_left hway] at hopen
    exact hopen "out" (by decide) (by decide)
  · apply (hwithin hidden).mpr
    refine ⟨⟨["b.ts"], rfl, by decide, by decide +kernel, ?_⟩,
      isExamined_iff.mp (by decide +kernel)⟩
    exact isUnskipped_singleton "b.ts"
  · intro h
    obtain ⟨-, -, hkept⟩ := (hfound ignored).mp h
    revert hkept
    decide +kernel
  · apply (hfree ignored).mpr
    refine ⟨⟨["gen", "c.ts"], rfl, by decide, by decide +kernel, ?_⟩,
      isExamined_iff.mp (by decide +kernel)⟩
    exact (isUnskipped_cons_iff (by decide)).mpr ⟨by decide, isUnskipped_singleton "c.ts"⟩
  · exact hless target.config (List.Subset.refl _) (List.nil_subset _)

end SourceAudit
