import SourceAudit.Proofs.Review.Hunks

/-!
# Sections of a diff

How the sections of lines in a row come about from those of the lines before and after a
place: the lines after it that open no section belong to the last section before it. What a
diff shows is what its sections show, each by itself, unless one of them is unreadable.
-/

namespace SourceAudit

open Text

/-! ### Lines in a row -/

theorem diffSections_cons_of_opens {line : List Char} (h : opensSection line = true)
    (rest : List (List Char)) :
  diffSections (line :: rest)
    = ([], ⟨line, (diffSections rest).1⟩ :: (diffSections rest).2)
  := by
  rw [diffSections]
  exact if_pos h

theorem diffSections_cons_of_not_opens {line : List Char} (h : opensSection line = false)
    (rest : List (List Char)) :
  diffSections (line :: rest) = (line :: (diffSections rest).1, (diffSections rest).2)
  := by
  rw [diffSections]
  exact if_neg (by simp [h])

/-- Lines that open no section are in front of the first one. -/
theorem diffSections_append_of_not_opens {lines : List (List Char)}
    (h : ∀ line ∈ lines, opensSection line = false) (rest : List (List Char)) :
  diffSections (lines ++ rest) = (lines ++ (diffSections rest).1, (diffSections rest).2)
  := by
  induction lines with
  | nil => rfl
  | cons line lines ih =>
      rw [List.forall_mem_cons] at h
      rw [List.cons_append, diffSections_cons_of_not_opens h.1, ih h.2, List.cons_append]

/-- A line that opens a section ends the one before it. -/
theorem diffSections_append_of_opens (lines : List (List Char)) {header : List Char}
    (h : opensSection header = true) (rest : List (List Char)) :
  diffSections (lines ++ header :: rest)
    = ((diffSections lines).1, (diffSections lines).2 ++ (diffSections (header :: rest)).2)
  := by
  induction lines with
  | nil =>
      rw [List.nil_append, diffSections_cons_of_opens h]
      rfl
  | cons line lines ih =>
      rw [List.cons_append]
      cases hopens : opensSection line with
      | true =>
          rw [diffSections_cons_of_opens hopens, diffSections_cons_of_opens hopens, ih,
            List.cons_append]
      | false => rw [diffSections_cons_of_not_opens hopens, diffSections_cons_of_not_opens hopens, ih]

/-- The lines of one section, and what comes after it. -/
theorem diffSections_section {header : List Char} (hheader : opensSection header = true)
    {body : List (List Char)} (hbody : ∀ line ∈ body, opensSection line = false)
    (rest : List (List Char)) :
  diffSections (header :: (body ++ rest))
    = ([], ⟨header, body ++ (diffSections rest).1⟩ :: (diffSections rest).2)
  := by
  rw [diffSections_cons_of_opens hheader, diffSections_append_of_not_opens hbody]

/-- The lines are about no file yet, or end within a section. -/
theorem exists_last_section (lines : List (List Char)) :
  (∀ line ∈ lines, opensSection line = false)
    ∨ ∃ earlier header body, lines = earlier ++ header :: body ∧ opensSection header = true
      ∧ ∀ line ∈ body, opensSection line = false
  := by
  induction lines with
  | nil =>
      left
      rintro line ⟨⟩
  | cons line lines ih =>
      rcases ih with hno | ⟨earlier, header, body, rfl, hheader, hbody⟩
      · cases hopens : opensSection line with
        | true =>
            right
            use [], line, lines, rfl
        | false =>
            left
            rw [List.forall_mem_cons]
            use hopens
      · right
        use line :: earlier, header, body, rfl

/-! ### What a section shows -/

/-- What the lines of the section are. -/
def DiffSection.lines (s : DiffSection) : List DiffLine :=
  s.body.map .ofText

/-- The section is about a file that is wanted, and the header of one of its hunks holds a
number of too many digits. -/
def DiffSection.IsUnreadable (root : Path) (suffixes : List String) (s : DiffSection) : Prop :=
  (s.path? root suffixes).isSome = true ∧ ∃ line ∈ s.lines, line.IsTooLong

instance (root : Path) (suffixes : List String) :
    DecidablePred (DiffSection.IsUnreadable root suffixes) :=
  fun s => inferInstanceAs
    (Decidable ((s.path? root suffixes).isSome = true ∧ ∃ line ∈ s.lines, line.IsTooLong))

/-- The change that consists of these lines of a file, if there are any. -/
def Change.ofEntries? (path : Path) (entries : List (Nat × List Char)) : Option Change :=
  if entries.isEmpty then none
  else some ⟨path, entries.map fun (_, text) => String.ofList text, entries.map Prod.fst⟩

/-- The change that a section shows, as far as it is readable. -/
def DiffSection.shown? (root : Path) (suffixes : List String) (s : DiffSection) :
    Option Change :=
  (s.path? root suffixes).bind fun path =>
    Change.ofEntries? path (shown [] (numbered none s.lines))

theorem DiffSection.change?_eq (root : Path) (suffixes : List String) (s : DiffSection) :
  s.change? root suffixes
    = if s.IsUnreadable root suffixes then .error .tooManyDigits
      else .ok (s.shown? root suffixes)
  := by
  rw [change?]
  cases hpath : s.path? root suffixes with
  | none => simp [IsUnreadable, shown?, hpath]
  | some path =>
      have hstart : false = true ↔ InBlock [] := by simp [not_inBlock_nil]
      rw [← lines, visibleLines_eq hstart]
      by_cases hlong : ∃ line ∈ s.lines, line.IsTooLong
      · simp [IsUnreadable, hpath, hlong, Except.map]
      · simp [IsUnreadable, hpath, hlong, Except.map, shown?, Change.ofEntries?]

/-- When each step is either refused, with one and the same fault, or leads to a value, so do
the steps in a row. -/
theorem mapM_eq_of_refused {α β ε : Type} {f : α → Except ε β} {g : α → β} {refused : α → Prop}
    [DecidablePred refused] {fault : ε}
    (h : ∀ a, f a = if refused a then .error fault else .ok (g a)) (as : List α) :
  as.mapM f = if ∃ a ∈ as, refused a then .error fault else .ok (as.map g)
  := by
  induction as with
  | nil => simp [pure, Except.pure]
  | cons a as ih =>
      rw [List.mapM_cons, h, ih]
      by_cases ha : refused a
      · simp [ha, bind, Except.bind]
      · by_cases has : ∃ a ∈ as, refused a
        · simp [ha, has, bind, Except.bind]
        · simp [ha, has, bind, Except.bind, pure, Except.pure]

/-- What sections in a row show, unless one of them is unreadable. -/
def readSections (root : Path) (suffixes : List String) (sections : List DiffSection) :
    Except DiffFault (List Change) :=
  if ∃ s ∈ sections, s.IsUnreadable root suffixes then .error .tooManyDigits
  else .ok (sections.filterMap (DiffSection.shown? root suffixes))

theorem readSections_append_cons (root : Path) (suffixes : List String)
    (earlier : List DiffSection) (s : DiffSection) (later : List DiffSection) :
  readSections root suffixes (earlier ++ s :: later)
    = if (∃ s ∈ earlier ++ later, s.IsUnreadable root suffixes)
        ∨ s.IsUnreadable root suffixes then .error .tooManyDigits
      else .ok (earlier.filterMap (DiffSection.shown? root suffixes)
        ++ ((s.shown? root suffixes).toList
        ++ later.filterMap (DiffSection.shown? root suffixes)))
  := by
  have hsame : (∃ s' ∈ earlier ++ s :: later, s'.IsUnreadable root suffixes)
      ↔ (∃ s' ∈ earlier ++ later, s'.IsUnreadable root suffixes)
        ∨ s.IsUnreadable root suffixes := by
    simp only [List.mem_append, List.mem_cons, or_and_right, exists_or, exists_eq_left]
    rw [or_right_comm, or_assoc]
  rw [readSections]
  apply if_congr hsame rfl
  rw [List.filterMap_append, List.filterMap_cons]
  cases s.shown? root suffixes with
  | none => rfl
  | some change => rfl

/-- A diff shows what its sections show. -/
theorem stagedChanges_eq (root : Path) (extensions : List String) (diff : String) :
  stagedChanges root extensions diff
    = readSections root (extensions.map small) (diffSections (boundaryLines diff.toList)).2
  := by
  have hchanges : stagedChanges root extensions diff
      = ((diffSections (boundaryLines diff.toList)).2.mapM
        (DiffSection.change? root (extensions.map small))).map (·.filterMap id) := rfl
  rw [hchanges, mapM_eq_of_refused (DiffSection.change?_eq root (extensions.map small)),
    readSections]
  split
  · rfl
  · rw [Except.map, List.filterMap_map]
    rfl

end SourceAudit
