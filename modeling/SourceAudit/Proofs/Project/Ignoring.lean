import SourceAudit.Ignore
import SourceAudit.Proofs.Project.ShownPath
import SourceAudit.Proofs.Text.Occurrence
import Mathlib.Logic.Relation

/-!
# What patterns ignore

Patterns that ignore paths work one by one. A path is ignored when it lies at or below the
root of the project, both resolved, and some pattern of the list ignores it by itself.

* `Rewritten.cleanPattern_eq`: blanks around a pattern, the direction of its slashes and the
  mark of the place at hand in front of it make no difference.
* `startsWith_directory_iff`: a text of names begins with some names and a slash exactly when
  these names are the first of more.
* `isIgnored_of_patterns`: how a list of patterns follows from its patterns, and that the
  pattern of a directory ignores what is below it and nothing else.
-/

namespace SourceAudit

open Text

/-! ### The place of a path in a project -/

/-- The names lead from the root of the project to the path, once both are resolved. A path
that holds a null character cannot be resolved. -/
structure LeadsDown (cwd root p : Path) (names : List String) : Prop where
  path_lookable : isLookable p = true
  root_lookable : isLookable root = true
  names_eq : (p.resolve cwd).names = (root.resolve cwd).names ++ names

/-- The resolved path is the resolved root of the project or lies below it. -/
def IsInside (cwd root p : Path) : Prop :=
  ∃ names, LeadsDown cwd root p names

section

variable {cwd root p : Path} {names : List String}

theorem LeadsDown.names_unique (h : LeadsDown cwd root p names) {names' : List String}
    (h' : LeadsDown cwd root p names') :
  names = names'
  := by
  have hnames := h.names_eq
  rw [h'.names_eq] at hnames
  exact (List.append_cancel_left hnames).symm

theorem LeadsDown.isProper (h : LeadsDown cwd root p names) (hp : p.IsProper)
    (hcwd : cwd.IsProper) :
  ∀ name ∈ names, Path.IsProperName name
  := by
  intro name hname
  apply Path.isProper_resolve hp hcwd
  rw [h.names_eq]
  exact List.mem_append_right _ hname

theorem below?_resolve_eq_some_iff :
  (p.resolve cwd).below? (root.resolve cwd) = some names
    ↔ (p.resolve cwd).names = (root.resolve cwd).names ++ names
  := by
  rw [Path.below?_eq_some_iff]
  exact and_iff_right rfl

/-- A path is ignored when it lies in the project and a pattern hits the names that lead to
it. -/
theorem isIgnored_iff {patterns : List String} :
  isIgnored cwd root patterns p = true
    ↔ ∃ names, LeadsDown cwd root p names
      ∧ ∃ pattern ∈ patterns, patternHits (cleanPattern pattern.toList) names = true
  := by
  rw [isIgnored]
  constructor
  · intro h
    split at h
    · cases h
    · rename_i hlookable
      rw [Bool.not_eq_true, Bool.not_eq_false', Bool.and_eq_true] at hlookable
      split at h
      · cases h
      · rename_i names hnames
        use names, ⟨hlookable.1, hlookable.2, below?_resolve_eq_some_iff.mp hnames⟩
        exact List.any_eq_true.mp h
  · rintro ⟨names, hdown, hhit⟩
    rw [hdown.path_lookable, hdown.root_lookable, below?_resolve_eq_some_iff.mpr hdown.names_eq]
    exact List.any_eq_true.mpr hhit

/-- When it is known where the path lies, its names are the ones to be hit. -/
theorem LeadsDown.isIgnored_iff (h : LeadsDown cwd root p names) {patterns : List String} :
  isIgnored cwd root patterns p = true
    ↔ ∃ pattern ∈ patterns, patternHits (cleanPattern pattern.toList) names = true
  := by
  rw [SourceAudit.isIgnored_iff]
  constructor
  · rintro ⟨names', h', hhit⟩
    rw [h.names_unique h']
    exact hhit
  · intro hhit
    use names

end

/-! ### Ways of writing a pattern -/

/-- The text with slashes for backslashes. -/
def withSlashes (s : List Char) : List Char :=
  replaceChar '\\' '/' s

/-- The second pattern is the first with blanks around it, with a backslash for one of its
slashes, or, when the first is trimmed and does not begin so already, with `./` in front. -/
inductive Rewritten : String → String → Prop where
  | padded (before pattern after : List Char) :
      isBlankText before = true → isBlankText after = true →
      Rewritten (String.ofList pattern) (String.ofList (before ++ pattern ++ after))
  | backslash (before after : List Char) :
      Rewritten (String.ofList (before ++ '/' :: after)) (String.ofList (before ++ '\\' :: after))
  | fromHere (pattern : List Char) :
      trim pattern = pattern → ¬ "./".toList <+: withSlashes pattern →
      Rewritten (String.ofList pattern) (String.ofList ("./".toList ++ pattern))

/-- The patterns differ in such ways of writing only. -/
def WrittenAlike : String → String → Prop :=
  Relation.EqvGen Rewritten

/-- It makes no difference whether slashes are put in before blanks are taken off or after. -/
theorem trim_withSlashes (s : List Char) :
  trim (withSlashes s) = withSlashes (trim s)
  := by
  apply trim_map
  intro c
  split
  · rename_i h
    rw [h]
    decide
  · rfl

theorem cleanPattern_eq (pattern : List Char) :
  cleanPattern pattern
    = (after? "./".toList (withSlashes (trim pattern))).getD (withSlashes (trim pattern))
  := rfl

/-- A pattern written in another way is the same once it is cleaned. -/
theorem Rewritten.cleanPattern_eq {pattern pattern' : String} (h : Rewritten pattern pattern') :
  cleanPattern pattern.toList = cleanPattern pattern'.toList
  := by
  cases h with
  | padded before pattern after hbefore hafter =>
      rw [String.toList_ofList, String.toList_ofList, cleanPattern, cleanPattern,
        trim_append_of_blank_right _ hafter, trim_append_of_blank_left hbefore]
  | backslash before after =>
      have hslash : withSlashes (before ++ '/' :: after) = withSlashes (before ++ '\\' :: after) := by
        simp [withSlashes, replaceChar]
      rw [String.toList_ofList, String.toList_ofList, SourceAudit.cleanPattern_eq,
        SourceAudit.cleanPattern_eq, ← trim_withSlashes, ← trim_withSlashes, hslash]
  | fromHere pattern htrim hnot =>
      have hdot : trim ("./".toList ++ pattern) = "./".toList ++ pattern :=
        trim_cons_of_trim_eq (by decide) (trim_cons_of_trim_eq (by decide) htrim)
      have hslash : withSlashes ("./".toList ++ pattern) = "./".toList ++ withSlashes pattern := rfl
      rw [String.toList_ofList, String.toList_ofList, SourceAudit.cleanPattern_eq,
        SourceAudit.cleanPattern_eq, htrim, hdot, hslash, after?_append,
        (after?_eq_none_iff _ _).mpr hnot]
      rfl

theorem WrittenAlike.cleanPattern_eq {pattern pattern' : String}
    (h : WrittenAlike pattern pattern') :
  cleanPattern pattern.toList = cleanPattern pattern'.toList
  := by
  induction h with
  | rel p q h => exact h.cleanPattern_eq
  | refl p => rfl
  | symm p q _ ih => exact ih.symm
  | trans p q r _ _ ih ih' => exact ih.trans ih'

/-- A list that holds every pattern of another, in whatever way of writing, ignores all that
the other ignores. -/
theorem isIgnored_of_subset {cwd root p : Path} {patterns patterns' : List String}
    (hsub : ∀ pattern ∈ patterns, ∃ pattern' ∈ patterns', WrittenAlike pattern pattern')
    (h : isIgnored cwd root patterns p = true) :
  isIgnored cwd root patterns' p = true
  := by
  obtain ⟨names, hdown, pattern, hpattern, hhit⟩ := isIgnored_iff.mp h
  obtain ⟨pattern', hpattern', halike⟩ := hsub pattern hpattern
  apply isIgnored_iff.mpr
  use names, hdown, pattern', hpattern'
  rw [← halike.cleanPattern_eq]
  exact hhit

/-! ### Patterns of directories -/

/-- The name is one a pattern can spell out: it is no empty name and no dots, and holds no
slash or backslash and no blanks at its ends. -/
structure IsOrdinaryName (name : String) : Prop extends Path.IsProperName name where
  ne_dots : name ≠ ".."
  no_backslash : '\\' ∉ name.toList
  trimmed : trimmed name = name

/-- The pattern of the directory that some names lead to. -/
def directoryPattern (directory : List String) : String :=
  joinWith "/" directory ++ "/"

theorem toList_directoryPattern (directory : List String) :
  (directoryPattern directory).toList = joined ['/'] (directory.map String.toList) ++ ['/']
  := by
  rw [directoryPattern, String.toList_append, toList_joinWith_slash]
  rfl

/-- A text of parts begins with the text of some parts and a slash exactly when these are the
first of more. -/
theorem joined_slash_prefix_iff {ps qs : List (List Char)} (hne : ps ≠ [])
    (hps : ∀ part ∈ ps, '/' ∉ part) (hqs : ∀ part ∈ qs, '/' ∉ part) :
  joined ['/'] ps ++ ['/'] <+: joined ['/'] qs ↔ ps <+: qs ∧ ps ≠ qs
  := by
  constructor
  · rintro ⟨rest, hrest⟩
    have hqs' : qs ≠ [] := by
      rintro rfl
      simp [joined] at hrest
    have hpieces := congrArg (pieces '/') hrest
    rw [List.append_assoc, List.singleton_append, pieces_append_sep, pieces_joined hne hps,
      pieces_joined hqs' hqs] at hpieces
    rw [← hpieces]
    use List.prefix_append _ _
    intro hsame
    exact pieces_ne_nil '/' rest (List.self_eq_append_right.mp hsame)
  · rintro ⟨⟨rest, rfl⟩, hmore⟩
    have hrest : rest ≠ [] := by
      rintro rfl
      exact hmore (List.append_nil ps).symm
    rw [joined_append _ hne hrest]
    exact List.prefix_append _ _

section

variable {directory names : List String}

theorem trim_directoryPattern (hne : directory ≠ [])
    (h : ∀ name ∈ directory, IsOrdinaryName name) :
  trim (directoryPattern directory).toList = (directoryPattern directory).toList
  := by
  obtain ⟨first, rest, rfl⟩ := List.exists_cons_of_ne_nil hne
  have hfirst := h first List.mem_cons_self
  obtain ⟨c, s, hc⟩ : ∃ c s, first.toList = c :: s :=
    List.exists_cons_of_ne_nil fun hnil => hfirst.ne_empty (String.toList_eq_nil_iff.mp hnil)
  have hhead : (joined ['/'] ((first :: rest).map String.toList) ++ ['/']).head? = some c := by
    rw [List.map_cons, hc]
    cases rest.map String.toList with
    | nil => rfl
    | cons t ts => rfl
  rw [toList_directoryPattern, trim_eq_self_iff, hhead, List.getLast?_concat]
  constructor
  · rintro d ⟨⟩
    have hown := congrArg String.toList hfirst.trimmed
    rw [trimmed, String.toList_ofList, hc] at hown
    exact isBlank_head_trim hown
  · rintro d ⟨⟩
    decide

theorem withSlashes_directoryPattern (h : ∀ name ∈ directory, IsOrdinaryName name) :
  withSlashes (directoryPattern directory).toList = (directoryPattern directory).toList
  := by
  have hnone : ∀ c ∈ (directoryPattern directory).toList, c ≠ '\\' := by
    rintro c hc rfl
    rw [toList_directoryPattern, List.mem_append] at hc
    rcases hc with hc | hc
    · rcases mem_joined hc with hslash | ⟨part, hpart, hmem⟩
      · exact absurd hslash (by decide)
      · obtain ⟨name, hname, rfl⟩ := List.mem_map.mp hpart
        exact (h name hname).no_backslash hmem
    · exact absurd hc (by decide)
  rw [withSlashes, replaceChar, List.map_congr_left fun c hc => if_neg (hnone c hc), List.map_id']

theorem no_slash_of_mem_map (h : ∀ name ∈ names, Path.IsProperName name) :
  ∀ part ∈ names.map String.toList, '/' ∉ part
  := by
  intro part hpart
  obtain ⟨name, hname, rfl⟩ := List.mem_map.mp hpart
  exact (h name hname).no_slash

/-- The pattern of a directory does not begin at the place at hand. -/
theorem not_here_prefix_directoryPattern (hne : directory ≠ [])
    (h : ∀ name ∈ directory, IsOrdinaryName name) :
  ¬ "./".toList <+: (directoryPattern directory).toList
  := by
  -- the slash at the end is one in front of an empty name
  have hempty : joined ['/'] (directory.map String.toList) ++ ['/']
      = joined ['/'] (directory.map String.toList ++ [[]]) := by
    rw [joined_append _ (by simpa using hne) (List.cons_ne_nil _ _), joined, List.append_nil]
  have hparts : ∀ part ∈ directory.map String.toList ++ [[]], '/' ∉ part := by
    intro part hpart
    rcases List.mem_append.mp hpart with hpart | hpart
    · exact no_slash_of_mem_map (fun name hname => (h name hname).toIsProperName) part hpart
    · rw [List.mem_singleton.mp hpart]
      exact List.not_mem_nil
  have hhere : "./".toList = joined ['/'] [['.']] ++ ['/'] := rfl
  obtain ⟨first, rest, rfl⟩ := List.exists_cons_of_ne_nil hne
  rw [toList_directoryPattern, hempty, hhere,
    joined_slash_prefix_iff (List.cons_ne_nil _ _) (by decide) hparts]
  rintro ⟨hlead, -⟩
  rw [List.map_cons, List.cons_append, List.cons_prefix_cons] at hlead
  apply (h first List.mem_cons_self).ne_dot
  rw [← String.toList_inj, ← hlead.1]
  rfl

/-- A pattern of ordinary names is clean. -/
theorem cleanPattern_directoryPattern (hne : directory ≠ [])
    (h : ∀ name ∈ directory, IsOrdinaryName name) :
  cleanPattern (directoryPattern directory).toList = (directoryPattern directory).toList
  := by
  rw [cleanPattern_eq, trim_directoryPattern hne h, withSlashes_directoryPattern h,
    (after?_eq_none_iff _ _).mpr (not_here_prefix_directoryPattern hne h)]
  rfl

/-- What is shown of names begins with the pattern of a directory exactly when the directory
stands above them. -/
theorem startsWith_directory_iff (hne : directory ≠ [])
    (h : ∀ name ∈ directory, IsOrdinaryName name)
    (hnames : ∀ name ∈ names, Path.IsProperName name) :
  startsWith (directoryPattern directory).toList (Path.relative names).toText.toList = true
    ↔ directory <+: names ∧ directory ≠ names
  := by
  have hproper : ∀ name ∈ directory, Path.IsProperName name :=
    fun name hname => (h name hname).toIsProperName
  have hshown : startsWith (directoryPattern directory).toList
      (Path.relative names).toText.toList = true
        ↔ (directoryPattern directory).toList <+: joined ['/'] (names.map String.toList) := by
    rw [startsWith_iff]
    cases names with
    | nil =>
        -- the root of the project is shown as a dot
        have hdot : (Path.relative []).toText.toList = joined ['/'] [['.']] := rfl
        have hparts : directory.map String.toList ≠ [] := by simpa using hne
        have hslash := no_slash_of_mem_map hproper
        rw [hdot, toList_directoryPattern, joined_slash_prefix_iff hparts hslash (by decide),
          joined_slash_prefix_iff hparts hslash (by simp)]
        constructor
        · rintro ⟨hlead, hmore⟩
          have hlength := List.length_pos_iff.mpr hparts
          exact absurd (hlead.eq_of_length_le hlength) hmore
        · rintro ⟨hlead, -⟩
          exact absurd (List.prefix_nil.mp hlead) hparts
    | cons name rest =>
        have htext : (Path.relative (name :: rest)).toText = joinWith "/" (name :: rest) := rfl
        rw [htext, toList_joinWith_slash]
  rw [hshown, toList_directoryPattern, joined_slash_prefix_iff (by simpa using hne)
    (no_slash_of_mem_map hproper) (no_slash_of_mem_map hnames)]
  have hinj : Function.Injective String.toList := fun _ _ => String.toList_inj.mp
  rw [List.prefix_map_iff_of_injective hinj, ne_eq, (List.map_injective_iff.mpr hinj).eq_iff]

theorem patternHits_directory_iff (hne : directory ≠ [])
    (h : ∀ name ∈ directory, IsOrdinaryName name)
    (hnames : ∀ name ∈ names, Path.IsProperName name) :
  patternHits (cleanPattern (directoryPattern directory).toList) names = true
    ↔ directory <+: names ∧ directory ≠ names
  := by
  have hsome : (directoryPattern directory).toList.isEmpty = false := by
    rw [toList_directoryPattern, List.isEmpty_eq_false_iff]
    exact List.append_ne_nil_of_right_ne_nil _ (List.cons_ne_nil _ _)
  have hends : endsWith ['/'] (directoryPattern directory).toList = true := by
    rw [endsWith, List.isSuffixOf_iff_suffix, toList_directoryPattern]
    exact List.suffix_append _ _
  rw [cleanPattern_directoryPattern hne h, patternHits, hsome, hends]
  exact startsWith_directory_iff hne h hnames

end

/-- Where a path lies decides whether the pattern of a directory ignores it. -/
theorem LeadsDown.isIgnored_directory_iff {cwd root p : Path} {names directory : List String}
    (hdown : LeadsDown cwd root p names) (hcwd : cwd.IsProper) (hp : p.IsProper)
    (hne : directory ≠ []) (h : ∀ name ∈ directory, IsOrdinaryName name) :
  isIgnored cwd root [directoryPattern directory] p = true
    ↔ directory <+: names ∧ directory ≠ names
  := by
  rw [hdown.isIgnored_iff, ← patternHits_directory_iff hne h (hdown.isProper hp hcwd)]
  simp

/-! ### Lists of patterns -/

/-- A list of patterns ignores what lies in the project and is ignored by one of them alone.
So neither their order nor their number counts, nor blanks around them, the direction of their
slashes or a `./` in front; with more patterns more is ignored; and nothing outside the project
is. The pattern of a directory ignores exactly what lies below the directory, thus neither the
directory itself nor what lies below one that stands beside it. -/
theorem isIgnored_of_patterns {cwd root p : Path} (hcwd : cwd.IsProper) (hp : p.IsProper) :
  (∀ patterns, isIgnored cwd root patterns p = true
    ↔ IsInside cwd root p ∧ ∃ pattern ∈ patterns, isIgnored cwd root [pattern] p = true)
  ∧ (∀ patterns patterns',
    (∀ pattern ∈ patterns, ∃ pattern' ∈ patterns', WrittenAlike pattern pattern') →
    (isIgnored cwd root patterns p = true → isIgnored cwd root patterns' p = true)
    ∧ ((∀ pattern' ∈ patterns', ∃ pattern ∈ patterns, WrittenAlike pattern' pattern) →
      isIgnored cwd root patterns' p = isIgnored cwd root patterns p))
  ∧ (¬ IsInside cwd root p → ∀ patterns, isIgnored cwd root patterns p = false)
  ∧ ∀ directory ≠ [], (∀ name ∈ directory, IsOrdinaryName name) →
    (isIgnored cwd root [directoryPattern directory] p = true
      ↔ ∃ names, LeadsDown cwd root p names ∧ directory <+: names ∧ directory ≠ names)
    ∧ (LeadsDown cwd root p directory →
      isIgnored cwd root [directoryPattern directory] p = false)
    ∧ ∀ above name other below, directory = above ++ [name] → other ≠ name →
      LeadsDown cwd root p (above ++ other :: below) →
      isIgnored cwd root [directoryPattern directory] p = false
  := by
  refine ⟨?_, ?_, ?_, ?_⟩
  · intro patterns
    constructor
    · intro h
      obtain ⟨names, hdown, pattern, hpattern, hhit⟩ := isIgnored_iff.mp h
      use ⟨names, hdown⟩, pattern, hpattern
      exact hdown.isIgnored_iff.mpr ⟨pattern, List.mem_singleton_self _, hhit⟩
    · rintro ⟨-, pattern, hpattern, h⟩
      apply isIgnored_of_subset _ h
      intro pattern' hpattern'
      rw [List.mem_singleton.mp hpattern']
      exact ⟨pattern, hpattern, .refl pattern⟩
  · intro patterns patterns' hsub
    use isIgnored_of_subset hsub
    intro hsub'
    rw [Bool.eq_iff_iff]
    exact ⟨isIgnored_of_subset hsub', isIgnored_of_subset hsub⟩
  · intro houtside patterns
    rw [Bool.eq_false_iff]
    intro h
    obtain ⟨names, hdown, -⟩ := isIgnored_iff.mp h
    exact houtside ⟨names, hdown⟩
  · intro directory hne h
    refine ⟨?_, ?_, ?_⟩
    · constructor
      · intro hignored
        obtain ⟨names, hdown, -⟩ := isIgnored_iff.mp hignored
        exact ⟨names, hdown, (hdown.isIgnored_directory_iff hcwd hp hne h).mp hignored⟩
      · rintro ⟨names, hdown, hbelow⟩
        exact (hdown.isIgnored_directory_iff hcwd hp hne h).mpr hbelow
    · intro hdown
      rw [Bool.eq_false_iff, ne_eq, hdown.isIgnored_directory_iff hcwd hp hne h]
      exact fun hbelow => hbelow.2 rfl
    · rintro above name other below rfl hother hdown
      rw [Bool.eq_false_iff, ne_eq, hdown.isIgnored_directory_iff hcwd hp hne h]
      rintro ⟨hlead, -⟩
      rw [List.prefix_append_right_inj, List.cons_prefix_cons] at hlead
      exact hother hlead.1.symm

/-- The pattern of a directory, and the same pattern with backslashes, a mark of the place at
hand and a blank in front, at a path that leaves the directory beside it again. -/
theorem isIgnored_of_patterns_two_directories :
  let cwd := Path.ofText "/home"
  let root := Path.ofText "/proj"
  let p := Path.ofText "/proj/src/../gen/x.ts"
  cwd.IsProper ∧ p.IsProper ∧ LeadsDown cwd root p ["gen", "x.ts"]
    ∧ WrittenAlike "gen/" " .\\gen\\" ∧ (∀ name ∈ ["gen"], IsOrdinaryName name)
    ∧ isIgnored cwd root ["gen/"] p = true
    ∧ isIgnored cwd root ["lib/*", " .\\gen\\"] p = true
    ∧ isIgnored cwd root ["src/"] p = false
    ∧ ¬ IsInside cwd root cwd ∧ isIgnored cwd root ["*"] cwd = false
  := by
  intro cwd root p
  have hcwd : cwd.IsProper := Path.isProper_ofText _
  have hp : p.IsProper := Path.isProper_ofText _
  have hdown : LeadsDown cwd root p ["gen", "x.ts"] :=
    ⟨by decide +kernel, by decide +kernel, by decide +kernel⟩
  have hmarked : WrittenAlike "gen/" "./gen/" :=
    .rel _ _ (.fromHere "gen/".toList (by decide) (by decide))
  have hback : WrittenAlike "./gen/" ".\\gen\\" :=
    .trans _ _ _ (.rel _ _ (.backslash ['.'] "gen/".toList))
      (.rel _ _ (.backslash ".\\gen".toList []))
  have hpadded : WrittenAlike ".\\gen\\" " .\\gen\\" :=
    .rel _ _ (.padded [' '] ".\\gen\\".toList [] (by decide) (by decide))
  have halike : WrittenAlike "gen/" " .\\gen\\" :=
    .trans _ _ _ hmarked (.trans _ _ _ hback hpadded)
  have hgen : ∀ name ∈ ["gen"], IsOrdinaryName name := List.forall_mem_singleton.mpr
    ⟨⟨by decide, by decide, by decide⟩, by decide, by decide, by decide +kernel⟩
  have hsrc : ∀ name ∈ ["src"], IsOrdinaryName name := List.forall_mem_singleton.mpr
    ⟨⟨by decide, by decide, by decide⟩, by decide, by decide, by decide +kernel⟩
  obtain ⟨-, hlists, -, hdirectory⟩ := @isIgnored_of_patterns cwd root p hcwd hp
  have hignored : isIgnored cwd root ["gen/"] p = true := by
    apply (hdirectory ["gen"] (by decide) hgen).1.mpr
    use ["gen", "x.ts"], hdown
    decide
  have houtside : ¬ IsInside cwd root cwd := by
    rintro ⟨names, h⟩
    have hfirst : ["home"] = "proj" :: names := h.names_eq
    exact absurd (List.cons.inj hfirst).1 (by decide)
  refine ⟨hcwd, hp, hdown, halike, hgen, hignored, ?_, ?_, houtside, ?_⟩
  · apply (hlists ["gen/"] _ _).1 hignored
    intro pattern hpattern
    rw [List.mem_singleton.mp hpattern]
    exact ⟨" .\\gen\\", by decide, halike⟩
  · exact (hdirectory ["src"] (by decide) hsrc).2.2 [] "src" "gen" ["x.ts"] rfl (by decide) hdown
  · exact (@isIgnored_of_patterns cwd root cwd hcwd hcwd).2.2.1 houtside ["*"]

end SourceAudit
