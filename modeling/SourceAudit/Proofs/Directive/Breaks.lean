import SourceAudit.Proofs.Directive.Scan
import Mathlib.Data.List.Chain

/-!
# Line breaks of any kind

The lines of a source may end with line feeds, with carriage returns, or with the two in that
order, in any mixture.

* The lines are found again, except where a carriage return stands before an empty line that
  ends with a line feed: the two then make one break.
* Directives are read as if every line ended with a line feed: they aim at the same lines, and
  the same line is refused with the same words.
-/

namespace SourceAudit

open Text

namespace Text

/-- What ends a line of a source. -/
inductive LineBreak where
  | feed
  | returnFeed
  | carriageReturn
  deriving DecidableEq, Repr

def LineBreak.chars : LineBreak → List Char
  | feed => ['\n']
  | returnFeed => ['\r', '\n']
  | carriageReturn => ['\r']

/-- A line of a source with the break that ends it. -/
abbrev EndedLine := List Char × LineBreak

/-- The text of lines that are ended, with a last line that is not. -/
def endedText (ended : List EndedLine) (last : List Char) : List Char :=
  ended.flatMap (fun e => e.1 ++ e.2.chars) ++ last

@[simp]
theorem endedText_cons (e : EndedLine) (ended : List EndedLine) (last : List Char) :
  endedText (e :: ended) last = e.1 ++ (e.2.chars ++ endedText ended last)
  := by
  simp [endedText]

/-- The second line is empty, and the break that ends it makes one break with the carriage
return that ends the first. -/
def IsMerged (e f : EndedLine) : Prop :=
  e.2 = .carriageReturn ∧ f = ([], .feed)

instance : DecidableRel IsMerged :=
  fun e f => inferInstanceAs (Decidable (e.2 = .carriageReturn ∧ f = ([], .feed)))

/-- A source in lines, each but the last with the break that ends it. -/
structure BrokenText where
  ended : List EndedLine
  last : List Char
  unbroken : ∀ l ∈ ended.map (·.1) ++ [last], '\n' ∉ l ∧ '\r' ∉ l

namespace BrokenText

def lines (t : BrokenText) : List (List Char) :=
  t.ended.map (·.1) ++ [t.last]

def chars (t : BrokenText) : List Char :=
  endedText t.ended t.last

/-- No two breaks of the source make one. -/
def IsApart (t : BrokenText) : Prop :=
  t.ended.IsChain fun e f => ¬ IsMerged e f

instance : DecidablePred IsApart :=
  fun t => inferInstanceAs (Decidable (t.ended.IsChain fun e f => ¬ IsMerged e f))

end BrokenText

/-! ### Breaks as line feeds -/

theorem unifyBreaks_append_of_not_mem {l : List Char} (h : '\r' ∉ l) (s : List Char) :
  unifyBreaks (l ++ s) = l ++ unifyBreaks s
  := by
  induction l with
  | nil => rfl
  | cons c l ih =>
      rw [List.mem_cons, not_or] at h
      have hc : c ≠ '\r' := Ne.symm h.1
      rw [List.cons_append, unifyBreaks, ih h.2, List.cons_append]
      · rintro _ rfl
        exact absurd rfl hc
      · exact hc

/-- A break is read as one line feed, unless it is a carriage return with a line feed after
it. -/
theorem unifyBreaks_chars_append {b : LineBreak} {s : List Char}
    (h : b = .carriageReturn → s.head? ≠ some '\n') :
  unifyBreaks (b.chars ++ s) = '\n' :: unifyBreaks s
  := by
  cases b with
  | feed => simp [LineBreak.chars, unifyBreaks]
  | returnFeed => simp [LineBreak.chars, unifyBreaks]
  | carriageReturn =>
      cases s with
      | nil => rfl
      | cons c s =>
          have hc : c ≠ '\n' := by
            rintro rfl
            exact h rfl rfl
          exact unifyBreaks_return_cons hc s

section

variable {ended : List EndedLine} {last : List Char}

/-- Only an empty line that ends with a line feed begins with one. -/
theorem head?_endedText (h : ∀ l ∈ ended.map (·.1) ++ [last], '\n' ∉ l) :
  (endedText ended last).head? = some '\n' ↔ ended.head? = some ([], .feed)
  := by
  cases ended with
  | nil =>
      have hlast := h last (by simp)
      cases last with
      | nil => simp [endedText]
      | cons c last =>
          have hc : c ≠ '\n' := by
            rintro rfl
            exact hlast List.mem_cons_self
          simp [endedText, hc]
  | cons e ended =>
      obtain ⟨l, b⟩ := e
      have hl := h l (by simp)
      rw [endedText_cons, List.head?_cons, Option.some.injEq]
      cases l with
      | nil =>
          cases b with
          | feed => simp [LineBreak.chars]
          | returnFeed => simp [LineBreak.chars]
          | carriageReturn => simp [LineBreak.chars]
      | cons c l =>
          have hc : c ≠ '\n' := by
            rintro rfl
            exact hl List.mem_cons_self
          simp [hc]

/-- A line and its break are read as the line and a line feed, unless the next line makes one
break of the two. -/
theorem unifyBreaks_endedText_cons {e : EndedLine}
    (h : ∀ l ∈ (e :: ended).map (·.1) ++ [last], '\n' ∉ l ∧ '\r' ∉ l)
    (hapart : ∀ f ∈ ended.head?, ¬ IsMerged e f) :
  unifyBreaks (endedText (e :: ended) last) = e.1 ++ '\n' :: unifyBreaks (endedText ended last)
  := by
  rw [List.map_cons, List.cons_append, List.forall_mem_cons] at h
  obtain ⟨he, hrest⟩ := h
  rw [endedText_cons, unifyBreaks_append_of_not_mem he.2, unifyBreaks_chars_append]
  intro hreturn hfeed
  have hnext := (head?_endedText fun l hl => (hrest l hl).1).mp hfeed
  exact hapart _ hnext ⟨hreturn, rfl⟩

theorem unifyBreaks_endedText_of_isMerged {e f : EndedLine} (he : '\r' ∉ e.1)
    (h : IsMerged e f) :
  unifyBreaks (endedText (e :: f :: ended) last)
    = e.1 ++ '\n' :: unifyBreaks (endedText ended last)
  := by
  obtain ⟨hreturn, rfl⟩ := h
  rw [endedText_cons, unifyBreaks_append_of_not_mem he, hreturn, endedText_cons]
  rfl

/-- Lines of which no two breaks make one are read as lines with line feeds between them. -/
theorem unifyBreaks_endedText (h : ∀ l ∈ ended.map (·.1) ++ [last], '\n' ∉ l ∧ '\r' ∉ l)
    (hapart : ended.IsChain fun e f => ¬ IsMerged e f) :
  unifyBreaks (endedText ended last) = joined ['\n'] (ended.map (·.1) ++ [last])
  := by
  induction ended with
  | nil => exact unifyBreaks_of_not_mem (h last (by simp)).2
  | cons e ended ih =>
      obtain ⟨hhead, hrest⟩ := List.isChain_cons.mp hapart
      obtain ⟨next, later, hlines⟩ := List.exists_cons_of_ne_nil
        (List.append_ne_nil_of_right_ne_nil (ended.map (·.1)) (List.cons_ne_nil last []))
      rw [unifyBreaks_endedText_cons h hhead,
        ih (fun l hl => h l (List.mem_cons_of_mem _ hl)) hrest, List.map_cons, List.cons_append,
        hlines, joined, List.append_assoc, List.singleton_append]

/-- There are no more line feeds than breaks, and fewer when two breaks make one. -/
theorem count_endedText (h : ∀ l ∈ ended.map (·.1) ++ [last], '\n' ∉ l ∧ '\r' ∉ l) :
  (unifyBreaks (endedText ended last)).count '\n' ≤ ended.length
  ∧ ((unifyBreaks (endedText ended last)).count '\n' = ended.length →
    ended.IsChain fun e f => ¬ IsMerged e f)
  := by
  -- a break that makes one with the next is taken together with it
  induction hlength : ended.length using Nat.strong_induction_on generalizing ended with
  | h n ih =>
      subst hlength
      cases ended with
      | nil =>
          have hlast := h last (by simp)
          have htext : endedText [] last = last := rfl
          rw [htext, unifyBreaks_of_not_mem hlast.2, List.count_eq_zero_of_not_mem hlast.1]
          simp
      | cons e ended =>
          have he := h e.1 (by simp)
          by_cases hmerged : ∃ f ∈ ended.head?, IsMerged e f
          · obtain ⟨f, hf, hmerged⟩ := hmerged
            obtain ⟨ended, rfl⟩ := List.head?_eq_some_iff.mp hf
            have hrest : ∀ l ∈ ended.map (·.1) ++ [last], '\n' ∉ l ∧ '\r' ∉ l :=
              fun l hl => h l (List.mem_cons_of_mem _ (List.mem_cons_of_mem _ hl))
            obtain ⟨hle, -⟩ := ih ended.length (by simp only [List.length_cons]; omega) hrest rfl
            rw [unifyBreaks_endedText_of_isMerged he.2 hmerged, List.count_append,
              List.count_eq_zero_of_not_mem he.1, List.count_cons_self, List.length_cons,
              List.length_cons]
            constructor
            · omega
            · omega
          · have hapart : ∀ f ∈ ended.head?, ¬ IsMerged e f :=
              fun f hf hboth => hmerged ⟨f, hf, hboth⟩
            obtain ⟨hle, hchain⟩ := ih ended.length (by simp)
              (fun l hl => h l (List.mem_cons_of_mem _ hl)) rfl
            rw [unifyBreaks_endedText_cons h hapart, List.count_append,
              List.count_eq_zero_of_not_mem he.1, List.count_cons_self, List.length_cons,
              List.isChain_cons]
            constructor
            · omega
            · intro heq
              exact ⟨hapart, hchain (by omega)⟩

end

theorem length_pieces (sep : Char) (s : List Char) :
  (pieces sep s).length = s.count sep + 1
  := by
  induction s with
  | nil => rfl
  | cons c s ih =>
      by_cases hc : c = sep
      · rw [pieces, if_pos hc, List.length_cons, ih, hc, List.count_cons_self]
      · obtain ⟨p, ps, hp, hcp⟩ := pieces_cons_of_ne hc s
        rw [hcp, List.count_cons_of_ne hc, ← ih, hp, List.length_cons, List.length_cons]

/-- The lines of a source are found again just if no two of its breaks make one. -/
theorem BrokenText.sourceLines_chars_iff (t : BrokenText) :
  sourceLines t.chars = t.lines ↔ t.IsApart
  := by
  constructor
  · intro h
    apply (count_endedText t.unbroken).2
    have hlength := congrArg List.length h
    rw [sourceLines, feedLines, length_pieces, lines, List.length_append, List.length_map,
      List.length_singleton] at hlength
    exact Nat.succ_injective hlength
  · intro h
    have hne : t.lines ≠ [] := List.append_ne_nil_of_right_ne_nil _ (List.cons_ne_nil _ _)
    rw [sourceLines, chars, unifyBreaks_endedText t.unbroken h]
    exact pieces_joined hne fun l hl => (t.unbroken l hl).1

end Text

/-- The lines of a source are found again whatever breaks end them, as long as no carriage
return stands before an empty line that ends with a line feed. Its directives are then read as
those of the source in which line feeds end all lines: either both turn off the same, or the
same line is refused in the same words. -/
theorem readDirectives_of_breaks {t : BrokenText} (h : t.IsApart) (file : Option String) :
  sourceLines t.chars = t.lines
  ∧ readDirectives (String.ofList t.chars) file
    = readDirectives (String.ofList (joined ['\n'] t.lines)) file
  := by
  have hlines := t.sourceLines_chars_iff.mpr h
  have hne : t.lines ≠ [] := List.append_ne_nil_of_right_ne_nil _ (List.cons_ne_nil _ _)
  use hlines
  rw [readDirectives_eq_scanLines, readDirectives_eq_scanLines, String.toList_ofList, hlines,
    String.toList_ofList, sourceLines_joined hne t.unbroken]

/-- Breaks of all kinds, one of them a carriage return before an empty line. The directive aims
at the third line; a fourth line without rules is refused. -/
theorem readDirectives_of_breaks_mixed :
  let t : BrokenText := {
    ended := [
      ("// avesta-disable-next-line a".toList, .carriageReturn), ([], .returnFeed),
      ("f();".toList, .feed)]
    last := []
    unbroken := by decide +kernel }
  let refused : BrokenText := {
    ended := t.ended ++ [("/* avesta-disable */".toList, .carriageReturn)]
    last := []
    unbroken := by decide +kernel }
  t.IsApart ∧ refused.IsApart
  ∧ readDirectives (String.ofList t.chars) none = .ok ⟨[], [(3, ["a"])], false⟩
  ∧ readDirectives (String.ofList refused.chars) (some "f.js")
    = .error (.comment "Invalid file-level disable comment format" "/* avesta-disable */"
      ⟨some "f.js", some 4⟩)
  := by
  intro t refused
  have ht : t.IsApart := by decide +kernel
  have hrefused : refused.IsApart := by decide +kernel
  use ht, hrefused
  constructor
  · rw [(readDirectives_of_breaks ht none).2]
    decide +kernel
  · rw [(readDirectives_of_breaks hrefused (some "f.js")).2]
    decide +kernel

end SourceAudit
