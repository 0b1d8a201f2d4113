import SourceAudit.Proofs.Review.StagedDiff

/-!
# Where the lines of a change come from

Every line of a change goes back to one line of the diff: one that counts, in the section of
the file and below the header of a hunk. Its number is that of the first line of the hunk,
raised by one for every line in between that counts.

Neither the sign in front of a line nor the number of lines that the header announces is
looked at. So a line of the change need not have been added: a notice that stands below the
last hunk of a section is taken for a line of the file.

* `exists_of_mem_numbered` and `exists_header_of_foldl`: a numbered line of a section, and the
  header that its number is counted from.
* `stagedChanges_origin`: the same for a whole diff, with the exact condition under which the
  line was added and its number was announced.
-/

namespace SourceAudit

open Text

/-! ### Headers of hunks -/

/-- The line is the header of a hunk, which gives a range of lines in the new version. -/
def IsHunkHeader (line : List Char) (new : HunkRange) : Prop :=
  ∃ (old : HunkRange) (heading : List Char), line = "@@ -".toList
    ++ (old.text ++ (" +".toList ++ (new.text ++ (" @@".toList ++ heading))))

/-- How many lines the range announces. -/
def HunkRange.lineCount (r : HunkRange) : Nat :=
  (r.count.map LineNumber.value).getD 1

/-- The digits in front of a text that begins with a digit. -/
def LineNumber.ofText (s : List Char) (h : (s.takeWhile isDecimal).isEmpty = false) :
    LineNumber where
  digits := s.takeWhile isDecimal
  digits_ne_nil := List.isEmpty_eq_false_iff.mp h
  decimal _ := List.mem_takeWhile_imp

/-- A range that is read was written. -/
theorem exists_of_takeRange? {s digits rest : List Char}
    (h : takeRange? s = some (digits, rest)) :
  ∃ r : HunkRange, s = r.text ++ rest ∧ r.first.digits = digits
  := by
  rw [takeRange?] at h
  cases hempty : (s.takeWhile isDecimal).isEmpty with
  | true =>
      rw [hempty] at h
      cases h
  | false =>
      simp only [hempty, Bool.false_eq_true, if_false] at h
      have hsplit : s.takeWhile isDecimal ++ s.dropWhile isDecimal = s :=
        List.takeWhile_append_dropWhile
      split at h
      · rename_i t hdrop
        cases hcount : (t.takeWhile isDecimal).isEmpty with
        | true =>
            rw [hcount] at h
            cases h
        | false =>
            simp only [hcount, Bool.false_eq_true, if_false] at h
            cases h
            use ⟨.ofText s hempty, some (.ofText t hcount)⟩
            constructor
            · have ht : t.takeWhile isDecimal ++ t.dropWhile isDecimal = t :=
                List.takeWhile_append_dropWhile
              rw [HunkRange.text, Option.map_some, Option.getD_some, List.append_assoc,
                List.cons_append, LineNumber.ofText, LineNumber.ofText, ht, ← hdrop, hsplit]
            · rfl
      · cases h
        use ⟨.ofText s hempty, none⟩
        constructor
        · rw [HunkRange.text, Option.map_none, Option.getD_none, List.append_nil,
            LineNumber.ofText, hsplit]
        · rfl

/-- The number of the first line is read off the headers of hunks and off no other line. -/
theorem hunkStart?_eq_some_iff (line digits : List Char) :
  hunkStart? line = some digits ↔ ∃ new, IsHunkHeader line new ∧ new.first.digits = digits
  := by
  constructor
  · intro h
    simp only [hunkStart?, bind, Option.bind_eq_some_iff, pure, Option.some.injEq] at h
    obtain ⟨s, hs, ⟨d, s'⟩, hold, t, ht, ⟨first, t'⟩, hnew, heading, hheading, rfl⟩ := h
    rw [after?_eq_some_iff] at hs ht hheading
    dsimp only at ht hheading
    obtain ⟨old, rfl, -⟩ := exists_of_takeRange? hold
    obtain ⟨new, rfl, hfirst⟩ := exists_of_takeRange? hnew
    use new
    constructor
    · use old, heading
      rw [hs, ht, hheading]
    · exact hfirst
  · rintro ⟨new, ⟨old, heading, rfl⟩, rfl⟩
    apply hunkStart?_of_ranges

theorem IsHunkHeader.isPrefix {line : List Char} {r : HunkRange} (h : IsHunkHeader line r) :
  ['@', '@'] <+: line
  := by
  obtain ⟨old, heading, rfl⟩ := h
  exact ⟨_, rfl⟩

theorem LineNumber.eq_of_digits {m n : LineNumber} (h : m.digits = n.digits) :
  m = n
  := by
  obtain ⟨digits, hne, hdecimal⟩ := m
  subst h
  rfl

/-- A range that a blank follows can be read in one way only. -/
theorem HunkRange.eq_of_text_append {r r' : HunkRange} {s s' : List Char}
    (h : r.text ++ ' ' :: s = r'.text ++ ' ' :: s') :
  r = r' ∧ s = s'
  := by
  have hread := r.takeRange?_text_append s
  rw [h, r'.takeRange?_text_append] at hread
  simp only [Option.some.injEq, Prod.mk.injEq, List.cons.injEq, true_and] at hread
  obtain ⟨hfirst, rfl⟩ := hread
  refine ⟨?_, rfl⟩
  obtain ⟨first, count⟩ := r
  obtain ⟨first', count'⟩ := r'
  obtain rfl := LineNumber.eq_of_digits hfirst.symm
  have hcount := List.append_cancel_left (List.append_cancel_right h)
  congr
  cases count with
  | none =>
      cases count' with
      | none => rfl
      | some n' => cases hcount
  | some n =>
      cases count' with
      | none => cases hcount
      | some n' => rw [LineNumber.eq_of_digits (List.cons.inj hcount).2]

/-- The header of a hunk gives one range only. -/
theorem IsHunkHeader.unique {line : List Char} {r r' : HunkRange} (h : IsHunkHeader line r)
    (h' : IsHunkHeader line r') :
  r = r'
  := by
  obtain ⟨old, heading, rfl⟩ := h
  obtain ⟨old', heading', heq⟩ := h'
  obtain ⟨-, hnew⟩ := HunkRange.eq_of_text_append (List.append_cancel_left heq)
  obtain ⟨-, htail⟩ := List.cons.inj hnew
  exact (HunkRange.eq_of_text_append htail).1

/-! ### What a line is -/

/-- The line counts below the header of a hunk: it does not begin with two at signs, was not
taken away and is no note. -/
def Counts (line : List Char) : Prop :=
  ¬ ['@', '@'] <+: line ∧ ¬ ['-'] <+: line ∧ ¬ ['\\'] <+: line

instance : DecidablePred Counts :=
  fun line => inferInstanceAs
    (Decidable (¬ ['@', '@'] <+: line ∧ ¬ ['-'] <+: line ∧ ¬ ['\\'] <+: line))

/-- The line was added. -/
def IsAdded (line : List Char) : Prop :=
  ['+'] <+: line

/-- The text of a line, without the sign in front of it if it was added. -/
def withoutSign : List Char → List Char
  | '+' :: text => text
  | line => line

theorem isAdded_iff (line : List Char) :
  IsAdded line ↔ line = '+' :: withoutSign line
  := by
  constructor
  · rintro ⟨text, rfl⟩
    rfl
  · intro h
    rw [h]
    exact List.prefix_append ['+'] _

theorem ofText_eq_content_iff (line text : List Char) :
  DiffLine.ofText line = .content text ↔ Counts line ∧ text = withoutSign line
  := by
  rw [DiffLine.ofText.eq_def, Counts, ← startsWith_iff]
  by_cases hat : startsWith ['@', '@'] line = true
  · rw [if_pos hat]
    constructor
    · intro h
      split at h <;> cases h
    · rintro ⟨⟨hno, -⟩, -⟩
      exact absurd hat hno
  · rw [if_neg hat]
    split
    · simp
    · simp
    · rename_i rest
      have hminus : ¬ ['-'] <+: '+' :: rest := by simp [List.cons_prefix_cons]
      have hslash : ¬ ['\\'] <+: '+' :: rest := by simp [List.cons_prefix_cons]
      simp [hat, hminus, hslash, withoutSign, eq_comm]
    · rename_i hminus hslash hplus
      have hm : ¬ ['-'] <+: line := by
        rintro ⟨rest, h⟩
        exact hminus rest h.symm
      have hs : ¬ ['\\'] <+: line := by
        rintro ⟨rest, h⟩
        exact hslash rest h.symm
      have htext : withoutSign line = line := by
        rw [withoutSign.eq_def]
        split
        · exact absurd rfl (hplus _)
        · rfl
      simp [hat, hm, hs, htext, eq_comm]

theorem ofText_eq_hunk_iff (line digits : List Char) :
  DiffLine.ofText line = .hunk digits ↔ ∃ new, IsHunkHeader line new ∧ new.first.digits = digits
  := by
  rw [← hunkStart?_eq_some_iff]
  constructor
  · intro h
    have hat := (startsWith_iff _ _).mpr (prefix_of_ofText_eq_hunk h)
    rw [DiffLine.ofText.eq_def, if_pos hat] at h
    split at h
    · cases h
      assumption
    · cases h
  · intro h
    obtain ⟨new, ⟨old, heading, rfl⟩, -⟩ := (hunkStart?_eq_some_iff _ _).mp h
    have hat : startsWith ['@', '@'] ("@@ -".toList
        ++ (old.text ++ (" +".toList ++ (new.text ++ (" @@".toList ++ heading))))) = true := rfl
    rw [DiffLine.ofText.eq_def, if_pos hat, h]

theorem not_isHunkHeader_of_ofText {line : List Char}
    (h : ∀ digits, DiffLine.ofText line ≠ .hunk digits) (r : HunkRange) :
  ¬ IsHunkHeader line r
  := by
  intro hr
  exact h _ ((ofText_eq_hunk_iff _ _).mpr ⟨r, hr, rfl⟩)

/-! ### Numbered lines -/

/-- A numbered line is one that counts, and its number is the one that the lines above it
lead to. -/
theorem exists_of_mem_numbered {next : Option Nat} {body : List (List Char)} {n : Nat}
    {text : List Char} (h : (n, text) ∈ numbered next (body.map .ofText)) :
  ∃ above raw later, body = above ++ raw :: later ∧ Counts raw ∧ text = withoutSign raw
    ∧ (above.map .ofText).foldl nextNumber next = some n
  := by
  induction body generalizing next with
  | nil => cases h
  | cons line body ih =>
      -- the line itself is not the one that is looked for: it is one of those below
      have hbelow : (n, text) ∈ numbered (nextNumber next (.ofText line)) (body.map .ofText) →
          ∃ above raw later, line :: body = above ++ raw :: later ∧ Counts raw
            ∧ text = withoutSign raw ∧ (above.map .ofText).foldl nextNumber next = some n := by
        intro hin
        obtain ⟨above, raw, later, rfl, hcounts, htext, hnumber⟩ := ih hin
        use line :: above, raw, later, rfl, hcounts, htext, hnumber
      rw [List.map_cons] at h
      cases hread : DiffLine.ofText line with
      | hunk digits =>
          rw [hread] at h hbelow
          exact hbelow h
      | passedOver =>
          rw [hread] at h hbelow
          exact hbelow h
      | content t =>
          rw [hread] at h hbelow
          rcases List.mem_append.mp h with hhere | hin
          · obtain ⟨m, hm, heq⟩ := List.mem_map.mp hhere
            cases heq
            obtain ⟨hcounts, htext⟩ := (ofText_eq_content_iff _ _).mp hread
            use [], line, body, rfl, hcounts, htext
            exact Option.mem_toList.mp hm
          · exact hbelow hin

/-- The number that the lines of a section lead to is counted from the header of the last hunk
among them. -/
theorem exists_header_of_foldl {lines : List (List Char)} {n : Nat}
    (h : (lines.map .ofText).foldl nextNumber none = some n) :
  ∃ above hunk range between, lines = above ++ hunk :: between ∧ IsHunkHeader hunk range
    ∧ (∀ line ∈ between, ∀ r, ¬ IsHunkHeader line r)
    ∧ n = range.first.value + between.countP (Counts ·)
  := by
  induction lines using List.reverseRecOn generalizing n with
  | nil => cases h
  | append_singleton lines line ih =>
      rw [List.map_append, List.foldl_append, List.map_singleton, List.foldl_cons,
        List.foldl_nil] at h
      cases hread : DiffLine.ofText line with
      | hunk digits =>
          rw [hread, nextNumber, Option.some.injEq] at h
          obtain ⟨range, hheader, rfl⟩ := (ofText_eq_hunk_iff _ _).mp hread
          use lines, line, range, [], rfl, hheader
          constructor
          · rintro l ⟨⟩
          · exact h.symm
      | passedOver =>
          rw [hread, nextNumber] at h
          obtain ⟨above, hunk, range, between, rfl, hheader, hnearest, rfl⟩ := ih h
          use above, hunk, range, between ++ [line], by simp, hheader
          constructor
          · rw [List.forall_mem_append, List.forall_mem_singleton]
            use hnearest
            apply not_isHunkHeader_of_ofText
            simp [hread]
          · have hno : ¬ Counts line := by
              intro hcounts
              rw [(ofText_eq_content_iff line (withoutSign line)).mpr ⟨hcounts, rfl⟩] at hread
              cases hread
            rw [List.countP_append, List.countP_singleton, if_neg (by simpa using hno),
              Nat.add_zero]
      | content text =>
          rw [hread, nextNumber, Option.map_eq_some_iff] at h
          obtain ⟨m, hm, rfl⟩ := h
          obtain ⟨above, hunk, range, between, rfl, hheader, hnearest, rfl⟩ := ih hm
          use above, hunk, range, between ++ [line], by simp, hheader
          constructor
          · rw [List.forall_mem_append, List.forall_mem_singleton]
            use hnearest
            apply not_isHunkHeader_of_ofText
            simp [hread]
          · have hcounts := ((ofText_eq_content_iff _ _).mp hread).1
            rw [List.countP_append, List.countP_singleton, if_pos (by simpa using hcounts),
              Nat.add_assoc]

/-! ### Sections -/

/-- A section of a diff is a line of it that opens a section and the lines below it up to the
next such line. -/
theorem exists_of_mem_diffSections {lines : List (List Char)} :
  (∃ later, lines = (diffSections lines).1 ++ later
    ∧ ∀ line ∈ (diffSections lines).1, opensSection line = false)
  ∧ ∀ s ∈ (diffSections lines).2, ∃ earlier later, lines = earlier ++ s.header :: (s.body ++ later)
    ∧ opensSection s.header = true ∧ ∀ line ∈ s.body, opensSection line = false
  := by
  induction lines with
  | nil =>
      constructor
      · use []
        simp [diffSections]
      · rintro s ⟨⟩
  | cons line lines ih =>
      obtain ⟨⟨rest, hrest, hfront⟩, hsections⟩ := ih
      have hbelow : ∀ s ∈ (diffSections lines).2, ∃ earlier later,
          line :: lines = earlier ++ s.header :: (s.body ++ later)
            ∧ opensSection s.header = true ∧ ∀ line ∈ s.body, opensSection line = false := by
        intro s hs
        obtain ⟨earlier, later, hlines, hheader, hbody⟩ := hsections s hs
        use line :: earlier, later
        rw [List.cons_append, ← hlines]
        exact ⟨rfl, hheader, hbody⟩
      cases hopens : opensSection line with
      | true =>
          rw [diffSections_cons_of_opens hopens]
          constructor
          · use line :: lines
            simp
          · rw [List.forall_mem_cons]
            constructor
            · use [], rest
              rw [List.nil_append, ← hrest]
              exact ⟨rfl, hopens, hfront⟩
            · exact hbelow
      | false =>
          rw [diffSections_cons_of_not_opens hopens]
          constructor
          · use rest
            rw [List.cons_append, ← hrest, List.forall_mem_cons]
            exact ⟨rfl, hopens, hfront⟩
          · exact hbelow

/-- What is seen are numbered lines. -/
theorem mem_of_mem_shown {above : List (List Char)} {entries : List (Nat × List Char)}
    {entry : Nat × List Char} (h : entry ∈ shown above entries) :
  entry ∈ entries
  := by
  induction entries generalizing above with
  | nil => cases h
  | cons first entries ih =>
      obtain ⟨n, text⟩ := first
      rw [shown] at h
      split at h
      · rcases List.mem_cons.mp h with rfl | h
        · exact List.mem_cons_self
        · exact List.mem_cons_of_mem _ (ih h)
      · exact List.mem_cons_of_mem _ (ih h)

/-! ### Changes -/

/-- A line of a diff that counts, with the header of the hunk that it stands in and the header
of its section. -/
structure LineOrigin (lines : List (List Char)) where
  earlier : List (List Char)
  header : List Char
  above : List (List Char)
  hunk : List Char
  range : HunkRange
  between : List (List Char)
  raw : List Char
  later : List (List Char)
  lines_eq : lines = earlier ++ header :: (above ++ hunk :: (between ++ raw :: later))
  opensSection_header : opensSection header = true
  sameSection : ∀ line ∈ above ++ hunk :: (between ++ [raw]), opensSection line = false
  isHunkHeader : IsHunkHeader hunk range
  /-- The header of the hunk is the nearest one above the line. -/
  nearest : ∀ line ∈ between, ∀ r, ¬ IsHunkHeader line r
  counts : Counts raw

/-- How many lines count between the header of the hunk and the line. -/
def LineOrigin.position {lines : List (List Char)} (o : LineOrigin lines) : Nat :=
  o.between.countP (Counts ·)

/-- A numbered line of a section has its origin there. -/
theorem exists_origin_of_mem_numbered {lines : List (List Char)} {s : DiffSection}
    (hs : s ∈ (diffSections lines).2) {n : Nat} {text : List Char}
    (h : (n, text) ∈ numbered none s.lines) :
  ∃ o : LineOrigin lines, o.header = s.header ∧ n = o.range.first.value + o.position
    ∧ text = withoutSign o.raw
  := by
  obtain ⟨earlier, later, hlines, hheader, hbody⟩ := exists_of_mem_diffSections.2 s hs
  obtain ⟨front, raw, below, hsplit, hcounts, htext, hnumber⟩ := exists_of_mem_numbered h
  obtain ⟨above, hunk, range, between, rfl, hhunk, hnearest, hn⟩ := exists_header_of_foldl hnumber
  have hbody' : s.body = (above ++ hunk :: (between ++ [raw])) ++ below := by
    rw [hsplit]
    simp
  rw [hbody'] at hbody hlines
  let o : LineOrigin lines := {
    earlier := earlier
    header := s.header
    above := above
    hunk := hunk
    range := range
    between := between
    raw := raw
    later := below ++ later
    lines_eq := by
      rw [hlines]
      simp
    opensSection_header := hheader
    sameSection := fun line hline => hbody line (List.mem_append_left _ hline)
    isHunkHeader := hhunk
    nearest := hnearest
    counts := hcounts }
  use o, rfl, hn, htext

/-- Every line of a change, with its number, goes back to a line of the diff that counts: one in
a section of its file, below the header of a hunk. The number is that of the first line of the
nearest such header, raised by one for every line in between that counts, and the text is the
line itself, less the sign in front of it if it was added. So the text is what follows a plus
sign and the number is one of those that the header announces exactly when the line was added
and the hunk has not been longer than its header says. -/
theorem stagedChanges_origin {root : Path} {extensions : List String} {diff : String}
    {changes : List Change} (h : stagedChanges root extensions diff = .ok changes)
    {change : Change} (hchange : change ∈ changes) {n : Nat} {text : String}
    (hentry : (n, text) ∈ change.numbers.zip change.lines) :
  ∃ o : LineOrigin (boundaryLines diff.toList),
    DiffSection.path? root (extensions.map small) ⟨o.header, []⟩ = some change.path
    ∧ n = o.range.first.value + o.position
    ∧ text.toList = withoutSign o.raw
    ∧ (IsAdded o.raw ∧ o.position < o.range.lineCount
      ↔ o.raw = '+' :: text.toList
        ∧ n ∈ Set.Ico o.range.first.value (o.range.first.value + o.range.lineCount))
  := by
  rw [stagedChanges_eq, readSections] at h
  split at h
  · cases h
  · cases h
    obtain ⟨s, hs, hshown⟩ := List.mem_filterMap.mp hchange
    obtain ⟨path, hpath, hentries⟩ := Option.bind_eq_some_iff.mp hshown
    rw [Change.ofEntries?] at hentries
    split at hentries
    · cases hentries
    · cases hentries
      rw [List.zip_map', List.mem_map] at hentry
      obtain ⟨⟨m, t⟩, hmem, heq⟩ := hentry
      cases heq
      obtain ⟨o, hheader, hn, htext⟩ := exists_origin_of_mem_numbered hs (mem_of_mem_shown hmem)
      use o
      rw [String.toList_ofList, isAdded_iff, htext, hheader, Set.mem_Ico]
      dsimp only at hn ⊢
      refine ⟨hpath, hn, rfl, and_congr_right fun _ => ?_⟩
      omega

/-- The second line of the second hunk, below a line that was taken away and a note. -/
theorem stagedChanges_origin_second_hunk :
  let diff := "diff --git a/a.ts b/a.ts\n+++ b/a.ts\n@@ -0,0 +1 @@\n+f();\n"
    ++ "@@ -5 +7,2 @@ h\n-old();\n\\ No newline\n+g();\n+h();\n"
  let change : Change := ⟨.absolute ["repo", "a.ts"], ["f();", "g();", "h();"], [1, 7, 8]⟩
  stagedChanges (.absolute ["repo"]) [".ts"] diff = .ok [change]
  ∧ (8, "h();") ∈ change.numbers.zip change.lines
  ∧ ∃ o : LineOrigin (boundaryLines diff.toList),
    DiffSection.path? (.absolute ["repo"]) ([".ts"].map small) ⟨o.header, []⟩ = some change.path
    ∧ 8 = o.range.first.value + o.position
    ∧ "h();".toList = withoutSign o.raw
  := by
  intro diff change
  have hread : stagedChanges (.absolute ["repo"]) [".ts"] diff = .ok [change] := by
    decide +kernel
  have hentry : (8, "h();") ∈ change.numbers.zip change.lines := by decide
  obtain ⟨o, hpath, hnumber, htext, -⟩ := stagedChanges_origin hread List.mem_cons_self hentry
  use hread, hentry, o

/-- A notice about a file that is not merged stands below the only hunk of a section, which has
one line. It becomes the second line of the change, though no such line was added and the header
announces the number one alone. -/
theorem stagedChanges_of_notice :
  let diff := "diff --git a/a.ts b/a.ts\n@@ -0,0 +1 @@\n+f();\n* Unmerged path b.ts\n"
  let change : Change := ⟨.absolute ["repo", "a.ts"], ["f();", "* Unmerged path b.ts"], [1, 2]⟩
  stagedChanges (.absolute ["repo"]) [".ts"] diff = .ok [change]
  ∧ (2, "* Unmerged path b.ts") ∈ change.numbers.zip change.lines
  ∧ (∀ line ∈ boundaryLines diff.toList, line ≠ '+' :: "* Unmerged path b.ts".toList)
  ∧ ∀ line ∈ boundaryLines diff.toList, ∀ range, IsHunkHeader line range →
    2 ∉ Set.Ico range.first.value (range.first.value + range.lineCount)
  := by
  intro diff change
  have hlines : boundaryLines diff.toList = ["diff --git a/a.ts b/a.ts".toList,
      "@@ -0,0 +1 @@".toList, "+f();".toList, "* Unmerged path b.ts".toList] := by
    decide +kernel
  let one : HunkRange := ⟨.ofDigit '1' (by decide), none⟩
  have hheader : IsHunkHeader "@@ -0,0 +1 @@".toList one := by
    use ⟨.ofDigit '0' (by decide), some (.ofDigit '0' (by decide))⟩, []
    rfl
  have honly : ∀ line ∈ boundaryLines diff.toList, ['@', '@'] <+: line →
      line = "@@ -0,0 +1 @@".toList := by
    rw [hlines]
    decide
  refine ⟨by decide +kernel, by decide, ?_, ?_⟩
  · rw [hlines]
    decide
  · intro line hline range hrange
    obtain rfl := honly line hline hrange.isPrefix
    rw [hrange.unique hheader]
    rintro ⟨-, hlt⟩
    revert hlt
    decide

end SourceAudit
