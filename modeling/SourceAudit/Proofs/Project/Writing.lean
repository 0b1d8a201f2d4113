import SourceAudit.World
import Mathlib.Data.List.Basic

/-!
# Worlds that differ in one file

Two worlds differ only in a file when the same can be read at every other place and the
parser makes the same of it. Writing a file, or taking it away, leads to such a world as
long as the directories remain.
-/

namespace SourceAudit

open Text

/-! ### Other places -/

/-- Whether two paths lead to different places. -/
def Disk.apart (d : Disk) (p q : Path) : Bool :=
  d.placeOf p ≠ d.placeOf q

/-- Two worlds differ only in what the file `f` holds, if it can be read, and in what a
parser makes of it. -/
structure DiffersOnlyAt (f : Path) (w w' : World) : Prop where
  cwd : w'.disk.cwd = w.disk.cwd
  modules : w'.modules = w.modules
  environment : w'.environment = w.environment
  text : ∀ p, w.disk.apart f p = true →
    (w'.disk.readText p).toOption = (w.disk.readText p).toOption
  parse : ∀ p, w.disk.apart f p = true → w'.parse? p = w.parse? p

/-- At another place a text is read in both worlds or in neither. -/
theorem DiffersOnlyAt.readText_cases {f p : Path} {w w' : World} (h : DiffersOnlyAt f w w')
    (hp : w.disk.apart f p = true) :
  (∃ fault fault', w.disk.readText p = .error fault ∧ w'.disk.readText p = .error fault')
    ∨ ∃ text, w.disk.readText p = .ok text ∧ w'.disk.readText p = .ok text
  := by
  have htext := h.text p hp
  cases hread : w.disk.readText p with
  | error fault =>
      cases hread' : w'.disk.readText p with
      | error fault' => exact Or.inl ⟨fault, fault', rfl, rfl⟩
      | ok text' =>
          rw [hread, hread'] at htext
          cases htext
  | ok text =>
      cases hread' : w'.disk.readText p with
      | error fault' =>
          rw [hread, hread'] at htext
          cases htext
      | ok text' =>
          rw [hread, hread'] at htext
          cases htext
          exact Or.inr ⟨text, rfl, rfl⟩

/-! ### Writing a file -/

/-- The disk with other octets in the file at a place, or with nothing there to read. The
directories above the place remain. -/
def Disk.write (d : Disk) (place : List String) (content : Option Octets) : Disk :=
  { d with
    files := (content.map (place, ·)).toList ++ d.files.filter fun file => file.1 ≠ place
    directories := place.dropLast :: d.directories }

theorem Disk.isDirectoryAt_iff (d : Disk) (names : List String) :
  d.isDirectoryAt names = true
    ↔ names = [] ∨ (∃ dir ∈ d.directories, names <+: dir)
      ∨ ∃ file ∈ d.files, names <+: file.1 ∧ names.length < file.1.length
  := by
  simp [Disk.isDirectoryAt, or_assoc]

theorem Disk.isDirectoryAt_above {d : Disk} {names below : List String}
    (h : d.isDirectoryAt below = true) (hbegins : names <+: below) :
  d.isDirectoryAt names = true
  := by
  apply (d.isDirectoryAt_iff names).mpr
  rcases (d.isDirectoryAt_iff below).mp h with
    rfl | ⟨dir, hdir, hbelow⟩ | ⟨file, hfile, hbelow, hlt⟩
  · exact Or.inl (List.prefix_nil.mp hbegins)
  · exact Or.inr (Or.inl ⟨dir, hdir, hbegins.trans hbelow⟩)
  · exact Or.inr (Or.inr ⟨file, hfile, hbegins.trans hbelow,
      Nat.lt_of_le_of_lt hbegins.length_le hlt⟩)

theorem prefix_dropLast_of_length_lt {names place : List String} (h : names <+: place)
    (hlt : names.length < place.length) :
  names <+: place.dropLast
  := by
  apply List.prefix_of_prefix_length_le h (List.dropLast_prefix place)
  rw [List.length_dropLast]
  omega

/-- Writing a file in a directory that is there neither makes a directory nor takes one
away. -/
theorem Disk.isDirectoryAt_write {d : Disk} {place : List String}
    (h : d.isDirectoryAt place.dropLast = true) (content : Option Octets)
    (names : List String) :
  (d.write place content).isDirectoryAt names = d.isDirectoryAt names
  := by
  rw [Bool.eq_iff_iff, Disk.isDirectoryAt_iff, Disk.isDirectoryAt_iff]
  constructor
  · rintro (rfl | ⟨dir, hdir, hbegins⟩ | ⟨file, hfile, hbegins, hlt⟩)
    · exact Or.inl rfl
    · rcases List.mem_cons.mp hdir with rfl | hdir
      · exact (d.isDirectoryAt_iff names).mp (isDirectoryAt_above h hbegins)
      · exact Or.inr (Or.inl ⟨dir, hdir, hbegins⟩)
    · rcases List.mem_append.mp hfile with hfile | hfile
      · obtain ⟨octets, -, rfl⟩ := Option.map_eq_some_iff.mp (Option.mem_toList.mp hfile)
        have habove := prefix_dropLast_of_length_lt hbegins hlt
        exact (d.isDirectoryAt_iff names).mp (isDirectoryAt_above h habove)
      · exact Or.inr (Or.inr ⟨file, List.mem_of_mem_filter hfile, hbegins, hlt⟩)
  · rintro (rfl | ⟨dir, hdir, hbegins⟩ | ⟨file, hfile, hbegins, hlt⟩)
    · exact Or.inl rfl
    · exact Or.inr (Or.inl ⟨dir, List.mem_cons_of_mem _ hdir, hbegins⟩)
    · by_cases hplace : file.1 = place
      · rw [hplace] at hbegins hlt
        exact Or.inr (Or.inl ⟨_, List.mem_cons_self, prefix_dropLast_of_length_lt hbegins hlt⟩)
      · right
        right
        use file
        refine ⟨List.mem_append_right _ (List.mem_filter.mpr ⟨hfile, ?_⟩), hbegins, hlt⟩
        exact decide_eq_true hplace

theorem lookup_filter_ne {α β : Type} [BEq α] [LawfulBEq α] [DecidableEq α] {a b : α}
    (h : b ≠ a) (l : List (α × β)) :
  (l.filter fun entry => entry.1 ≠ a).lookup b = l.lookup b
  := by
  induction l with
  | nil => rfl
  | cons entry l ih =>
      rw [List.filter_cons]
      by_cases hentry : entry.1 = a
      · have hne : (b == entry.1) = false := by
          rw [hentry]
          exact beq_false_of_ne h
        rw [if_neg (by simp [hentry]), ih, List.lookup_cons, hne]
      · rw [if_pos (decide_eq_true hentry), List.lookup_cons, List.lookup_cons, ih]

theorem Disk.lookup_write {d : Disk} {place names : List String} (h : names ≠ place)
    (content : Option Octets) :
  (d.write place content).files.lookup names = d.files.lookup names
  := by
  rw [Disk.write]
  cases content with
  | none => exact lookup_filter_ne h d.files
  | some octets =>
      have hne : (names == place) = false := beq_false_of_ne h
      simp only [Option.map_some, Option.toList_some, List.singleton_append, List.lookup_cons,
        hne]
      exact lookup_filter_ne h d.files

theorem Disk.deadEnd?_write {d : Disk} {place : List String}
    (h : d.isDirectoryAt place.dropLast = true) (content : Option Octets)
    (back names : List String) :
  (d.write place content).deadEnd? back names = d.deadEnd? back names
  := by
  induction names generalizing back with
  | nil => rfl
  | cons name rest ih => rw [Disk.deadEnd?, Disk.deadEnd?, isDirectoryAt_write h, ih, ih]

/-- What is read at another place stays the same. -/
theorem Disk.readText_write {d : Disk} {place : List String}
    (h : d.isDirectoryAt place.dropLast = true) (content : Option Octets) {p : Path}
    (hp : d.placeOf p ≠ place) :
  ((d.write place content).readText p).toOption = (d.readText p).toOption
  := by
  have hplace : (d.write place content).placeOf p = d.placeOf p := rfl
  have hcwd : (d.write place content).cwd = d.cwd := rfl
  rw [Disk.readText, Disk.readText, Disk.read, Disk.read, hcwd, deadEnd?_write h, hplace,
    lookup_write hp]
  cases d.deadEnd? [] (if p.isAbsolute then p.names else d.cwd.names ++ p.names) with
  | some names => rfl
  | none =>
      cases d.files.lookup (d.placeOf p) with
      | none => rfl
      | some octets => rfl

/-- The world with other octets in a file, or with nothing there to read, and with another
parse of the file. -/
def World.write (w : World) (f : Path) (content : Option Octets) (parse : Parse) : World :=
  { w with
    disk := w.disk.write (w.disk.placeOf f) content
    trees := w.trees.map ((w.disk.placeOf f, parse) :: ·) }

/-- Writing a file changes nothing but that file. -/
theorem differsOnlyAt_write {w : World} {f : Path}
    (h : w.disk.isDirectoryAt (w.disk.placeOf f).dropLast = true) (content : Option Octets)
    (parse : Parse) :
  DiffersOnlyAt f w (w.write f content parse)
  where
  cwd := rfl
  modules := rfl
  environment := rfl
  text := by
    intro p hp
    apply Disk.readText_write h
    exact (of_decide_eq_true hp).symm
  parse := by
    intro p hp
    have hplace : (w.write f content parse).disk.placeOf p = w.disk.placeOf p := rfl
    have hne : (w.disk.placeOf p == w.disk.placeOf f) = false :=
      beq_false_of_ne (of_decide_eq_true hp).symm
    rw [World.parse?, World.parse?, hplace, World.write]
    cases w.trees with
    | none => rfl
    | some trees => simp only [Option.map_some, List.lookup_cons, hne]

end SourceAudit
