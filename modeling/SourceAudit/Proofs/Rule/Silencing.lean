import SourceAudit.CommandLine.Run
import SourceAudit.Proofs.Directive.Blocks
import SourceAudit.Proofs.Directive.Faults
import SourceAudit.Proofs.Rule.Registry
import SourceAudit.Proofs.Text.Small

/-!
# The code that silences a rule

A rule is explained with code that is said to silence it: a directive for the whole file,
and one for the next line. The code does so exactly when the name of the rule has no line
feed at its end and does not speak of the next line; otherwise the first line of the code
is refused. A rule is found by its name exactly when no line feed ends the name.
-/

namespace SourceAudit

open Text

/-! ### The directive for a whole file -/

/-- The beginning `/* avesta-disable` of a comment, with a text after it. -/
def fileComment (text : List Char) : List Char :=
  '/' :: '*' :: ' ' :: (directiveKeyword ++ ' ' :: text)

/-- The end of a comment. -/
def closing : List Char := [' ', '*', '/']

theorem not_guarded_fileComment {text : List Char} (h : IsUnquoted text) :
  ¬ Guarded (fileComment text)
  := by
  have hunquoted : IsUnquoted (fileComment text) := by
    simp only [fileComment, isUnquoted_cons, isUnquoted_append]
    exact ⟨by decide, by decide, by decide, by decide, by decide, h⟩
  exact not_guarded_of_isUnquoted (c := '/') (by decide) List.mem_cons_self hunquoted

theorem mentions_fileComment (text : List Char) :
  Mentions (fileComment text)
  := by
  use ['/', '*', ' '], ' ' :: text
  simp [fileComment]

/-- A word without a space that is in neither word of the beginning is in the comment just if
it is in the text. -/
theorem infix_fileComment_iff {word : List Char} (hspace : ' ' ∉ word)
    (hopening : ¬ word <:+: ['/', '*']) (hkeyword : ¬ word <:+: directiveKeyword)
    (text : List Char) :
  word <:+: fileComment text ↔ word <:+: text
  := by
  have hsplit : fileComment text = ['/', '*'] ++ ' ' :: (directiveKeyword ++ ' ' :: text) := rfl
  rw [hsplit, infix_append_cons_iff hspace, infix_append_cons_iff hspace]
  simp only [hopening, hkeyword, false_or]

theorem speaksOfNextLine_fileComment_iff (text : List Char) :
  SpeaksOfNextLine (fileComment text) ↔ SpeaksOfNextLine text
  := infix_fileComment_iff (by decide) (by decide) (by decide) text

theorem speaksOfNextLine_append_closing_iff (name : List Char) :
  SpeaksOfNextLine (name ++ closing) ↔ SpeaksOfNextLine name
  := by
  have hspace : ' ' ∉ "disable-next-line".toList := by decide
  have hclosing : ¬ "disable-next-line".toList <:+: ['*', '/'] := by decide
  rw [SpeaksOfNextLine, closing, infix_append_cons_iff hspace]
  simp only [hclosing, or_false]
  rfl

/-- The comment has not the form of a directive for the next line. -/
theorem not_nextLineForm_fileComment (text payload : List Char) :
  ¬ NextLineForm (fileComment text) payload
  := by
  rintro ⟨⟨ws, -, hline⟩, -⟩
  have htrim : trim (fileComment text)
      = '/' :: '*' :: ' ' :: ("avesta-disabl".toList ++ 'e' :: trimRight (' ' :: text)) :=
    trim_append_cons_append (by decide) (by decide) []
      ('*' :: ' ' :: "avesta-disabl".toList) (' ' :: text)
  rw [htrim] at hline
  injection hline with _ hline
  injection hline with hstar _
  cases hstar

/-- A comment of the form of a directive for a whole file is closed. -/
theorem closed_of_fileForm {text payload : List Char} (h : FileForm (fileComment text) payload) :
  "*/".toList <:+: text
  := by
  obtain ⟨before, rest, after, ⟨⟨ws, -, hline⟩, -⟩, hcut, -⟩ := h
  apply (infix_fileComment_iff (by decide) (by decide) (by decide) text).mp
  rw [hline, hcut.eq]
  use before ++ '/' :: '*' :: (ws ++ directiveKeyword ++ payload), after
  simp only [List.cons_append, List.append_assoc]

/-- The comment is refused when it speaks of the next line, and when it is not closed. -/
theorem exists_readLine_fileComment_eq_error {text : List Char}
    (hunquoted : IsUnquoted text)
    (h : SpeaksOfNextLine text ∨ ¬ "*/".toList <:+: text) :
  ∃ fault, readLine (fileComment text) = .error fault
  := by
  apply (exists_readLine_eq_error_iff _).mpr
  use not_guarded_fileComment hunquoted
  left
  right
  have hmentions := mentions_fileComment text
  by_cases hnext : SpeaksOfNextLine (fileComment text)
  · left
    use hmentions, hnext
    rintro ⟨payload, hform⟩
    exact not_nextLineForm_fileComment text payload hform
  · right
    use hmentions, hnext
    rintro ⟨payload, hform⟩
    rw [speaksOfNextLine_fileComment_iff] at hnext
    exact h.resolve_left hnext (closed_of_fileForm hform)

section

variable {name : List Char} (h : IsIdentifier name)

include h

theorem isUnquoted_append_closing :
  IsUnquoted (name ++ closing)
  := by
  rw [isUnquoted_append]
  exact ⟨h.isUnquoted, by decide⟩

theorem fileComment_append_closing :
  fileComment (name ++ closing) = (FileBlock.single name h).text
  := by
  simp [fileComment, closing, FileBlock.text, FileBlock.inside, FileBlock.payload,
    FileBlock.single, joined]

/-- The comment with an identifier that does not speak of the next line is read as a
directive for it. -/
theorem readLine_fileComment (hnext : ¬ SpeaksOfNextLine name) :
  readLine (fileComment (name ++ closing)) = .ok (some (.wholeFile [String.ofList name]))
  := by
  have hline : CodeText.empty.text ++ ((FileBlock.single name h).text ++ [])
      = fileComment (name ++ closing) := by
    rw [List.append_nil, fileComment_append_closing h]
    rfl
  have hunquoted := (FileBlock.single name h).isUnquoted_text
  have hno : ¬ SpeaksOfNextLine (fileComment (name ++ closing)) := by
    rw [speaksOfNextLine_fileComment_iff, speaksOfNextLine_append_closing_iff]
    exact hnext
  rw [← fileComment_append_closing h] at hunquoted
  rw [← hline] at hunquoted hno
  rw [← hline, readLine_append .empty _ [] hunquoted hno, FileBlock.rules_single h]

end

/-! ### The lines of the code -/

theorem toList_silencingCode (rule : String) :
  (Report.silencingCode rule).toList
    = fileComment (rule.toList ++ closing) ++ '\n' :: '\n' ::
      (nextLineComment rule ++ '\n' :: "const value = 1;".toList)
  := by
  have hopening : "/* avesta-disable ".toList
      = '/' :: '*' :: ' ' :: (directiveKeyword ++ [' ']) := by
    decide
  have hnext : "// avesta-disable-next-line ".toList
      = '/' :: '/' :: ' ' :: (nextLineKeyword ++ [' ']) := by
    decide
  simp [Report.silencingCode, joinWith, String.intercalate_cons_cons, hopening, hnext,
    fileComment, closing, nextLineComment]

theorem fileComment_eq_append (text : List Char) :
  fileComment text = fileComment [] ++ text
  := by
  simp [fileComment]

theorem not_mem_fileComment {text : List Char} {c : Char} (hc : c ∉ fileComment [])
    (h : c ∉ text) :
  c ∉ fileComment text
  := by
  rw [fileComment_eq_append, List.mem_append, not_or]
  exact ⟨hc, h⟩

theorem breaks_not_mem_fileComment {text : List Char} (h : '\n' ∉ text ∧ '\r' ∉ text) :
  '\n' ∉ fileComment text ∧ '\r' ∉ fileComment text
  := ⟨not_mem_fileComment (by decide) h.1, not_mem_fileComment (by decide) h.2⟩

theorem IsIdentifier.breaks_not_mem {name : List Char} (h : IsIdentifier name) :
  '\n' ∉ name ∧ '\r' ∉ name
  := ⟨h.not_mem (by decide), h.not_mem (by decide)⟩

theorem sourceLines_silencingCode {rule : String} (h : IsIdentifier rule.toList) :
  sourceLines (Report.silencingCode rule).toList
    = [fileComment (rule.toList ++ closing), [], nextLineComment rule,
        "const value = 1;".toList]
  := by
  have hjoined : (Report.silencingCode rule).toList
      = joined ['\n'] [fileComment (rule.toList ++ closing), [], nextLineComment rule,
          "const value = 1;".toList] := by
    simp [toList_silencingCode, joined]
  rw [hjoined]
  apply sourceLines_joined (by simp)
  simp only [List.forall_mem_cons]
  refine ⟨?_, by simp, breaks_not_mem_nextLineComment h, by decide, by simp⟩
  apply breaks_not_mem_fileComment
  simp [h.breaks_not_mem, closing]

/-- The lines of the code turn the rule off in the whole file and on the last of them. -/
theorem scanLines_silencingCode {rule : String} (h : IsIdentifier rule.toList)
    (hnext : ¬ SpeaksOfNextLine rule.toList) :
  scanLines [fileComment (rule.toList ++ closing), [], nextLineComment rule,
      "const value = 1;".toList]
    = .ok ⟨[rule], [(4, [rule])], false⟩
  := by
  have hfirst := readLine_fileComment h hnext
  rw [String.ofList_toList] at hfirst
  have hblank : readLine [] = .ok none := by decide +kernel
  have hlast : readLine "const value = 1;".toList = .ok none := by decide +kernel
  have htarget : targetLine? 4 3 ["const value = 1;".toList] = some 4 := by decide +kernel
  generalize "const value = 1;".toList = last at hlast htarget
  rw [scanLines, scanFrom_cons_of_ok hfirst, scanFrom_cons_of_ok hblank,
    scanFrom_cons_of_ok (readLine_nextLineComment h), scanFrom_cons_of_ok hlast]
  simp [scanFrom, Except.map, directiveEffect, htarget, Suppressions.union, Suppressions.none]

/-! ### Names that directives can have -/

/-- Directives can name a rule: its name is an identifier, and it does not speak of the next
line. -/
def IsNameable (rule : String) : Prop :=
  IsIdentifier rule.toList ∧ ¬ SpeaksOfNextLine rule.toList

theorem isNameable_of_mem_builtin {r : Rule} (h : r ∈ Rule.builtin) :
  IsNameable r.id
  := by
  have hall : ∀ id ∈ Rule.builtin.map Rule.id, IsNameable id := by
    simp only [IsNameable, isIdentifier_iff_all, SpeaksOfNextLine]
    decide +kernel
  exact hall r.id (List.mem_map_of_mem h)

theorem readDirectives_silencingCode_of_isNameable {rule : String} (h : IsNameable rule)
    (file : Option String) :
  readDirectives (Report.silencingCode rule) file = .ok ⟨[rule], [(4, [rule])], false⟩
  := by
  apply (readDirectives_eq_ok_iff _ _ _).mpr
  rw [sourceLines_silencingCode h.1]
  exact scanLines_silencingCode h.1 h.2

theorem readDirectives_of_first_line_refused {source : String} {first : List Char}
    {rest : List (List Char)} {fault : LineFault}
    (hlines : sourceLines source.toList = first :: rest)
    (hfirst : readLine first = .error fault) (file : Option String) :
  ∃ e, readDirectives source file = .error e ∧ e.place = ⟨file, some 1⟩
  := by
  rw [readDirectives_eq_scanLines, hlines, scanLines, scanFrom_cons_of_error hfirst]
  exact ⟨_, rfl, place_toError _ _⟩

/-- An identifier that speaks of the next line makes the first line of the code speak of it. -/
theorem readDirectives_silencingCode_of_speaksOfNextLine {rule : String}
    (h : IsIdentifier rule.toList) (hnext : SpeaksOfNextLine rule.toList)
    (file : Option String) :
  ∃ e, readDirectives (Report.silencingCode rule) file = .error e
    ∧ e.place = ⟨file, some 1⟩
  := by
  obtain ⟨fault, hfault⟩ := exists_readLine_fileComment_eq_error
    (isUnquoted_append_closing h)
    (Or.inl ((speaksOfNextLine_append_closing_iff _).mpr hnext))
  exact readDirectives_of_first_line_refused (sourceLines_silencingCode h) hfault file

/-- A line feed at the end of an identifier leaves the comment on the first line open. -/
theorem readDirectives_silencingCode_of_feed {rule : String} {name : List Char}
    (h : IsIdentifier name) (hfeed : rule.toList = name ++ ['\n']) (file : Option String) :
  ∃ e, readDirectives (Report.silencingCode rule) file = .error e
    ∧ e.place = ⟨file, some 1⟩
  := by
  have hopen : ¬ "*/".toList <:+: name := by
    intro hclosed
    have hstar : '*' ∉ name := h.not_mem (by decide)
    exact hstar (hclosed.subset (by decide))
  obtain ⟨fault, hfault⟩ := exists_readLine_fileComment_eq_error
    h.isUnquoted (Or.inr hopen)
  have hfirst : sourceLines (fileComment name) = [fileComment name] := by
    change sourceLines (joined ['\n'] [fileComment name]) = [fileComment name]
    apply sourceLines_joined (by simp)
    simpa using breaks_not_mem_fileComment h.breaks_not_mem
  have hlast : (sourceLines (fileComment name)).getLast? = some (fileComment name) := by
    rw [hfirst]
    rfl
  have hsplit : (Report.silencingCode rule).toList
      = fileComment name ++ '\n' :: (closing ++ '\n' :: '\n' ::
        (nextLineComment rule ++ '\n' :: "const value = 1;".toList)) := by
    rw [toList_silencingCode, hfeed]
    simp [fileComment]
  have hlines := sourceLines_append_feed hlast (by simp [fileComment])
    (closing ++ '\n' :: '\n' :: (nextLineComment rule ++ '\n' :: "const value = 1;".toList))
  rw [hfirst, ← hsplit] at hlines
  exact readDirectives_of_first_line_refused hlines hfault file

/-- With a rule name that directives cannot have, the first line of the code is refused. -/
theorem readDirectives_silencingCode_of_not_isNameable {rule : String}
    (hname : isRuleName rule = true) (h : ¬ IsNameable rule) (file : Option String) :
  ∃ e, readDirectives (Report.silencingCode rule) file = .error e
    ∧ e.place = ⟨file, some 1⟩
  := by
  rcases (isRuleNameChars_iff rule.toList).mp hname with hid | ⟨name, hid, hfeed⟩
  · have hnext : SpeaksOfNextLine rule.toList := by
      by_contra hno
      exact h ⟨hid, hno⟩
    exact readDirectives_silencingCode_of_speaksOfNextLine hid hnext file
  · exact readDirectives_silencingCode_of_feed hid hfeed file

/-! ### Looking a rule up -/

/-- What a rule name is looked up as is the name itself, unless it ends with a line feed. -/
theorem small_trimmed_eq_iff {rule : String} (hname : isRuleName rule = true) :
  small (trimmed rule) = rule ↔ IsIdentifier rule.toList
  := by
  have hof : ∀ name, IsIdentifier name → trim rule.toList = name →
      small (trimmed rule) = String.ofList name := by
    intro name hid htrim
    rw [small, trimmed, String.toList_ofList, htrim, smallFrom_of_isRuleChar hid.2]
  rcases (isRuleNameChars_iff rule.toList).mp hname with hid | ⟨name, hid, hfeed⟩
  · rw [hof _ hid hid.trim_eq, String.ofList_toList]
    simp [hid]
  · have htrim : trim rule.toList = name := by
      rw [hfeed, trim_append_of_blank_right name (by decide), hid.trim_eq]
    have hno : ¬ IsIdentifier rule.toList := by
      intro hrule
      have hbreak := hrule.breaks_not_mem.1
      rw [hfeed] at hbreak
      simp at hbreak
    simp only [hno, iff_false]
    rw [hof name hid htrim]
    intro heq
    have hlen := congrArg (fun s => s.toList.length) heq
    simp only [String.toList_ofList, hfeed, List.length_append, List.length_singleton] at hlen
    omega

/-- A project looks the rules of a registry up as they are called, unless a line feed ends
the name. -/
theorem find?_describe_small_trimmed_iff {rules : List Rule} {reg : Registry}
    (h : Registry.register rules = .ok reg) {r : Rule} (hr : r ∈ reg.rules)
    (config : Config) :
  (reg.describe config).find? (fun s => s.about.id = small (trimmed r.id))
      = some (r.summary config)
    ↔ IsIdentifier r.id.toList
  := by
  rw [← small_trimmed_eq_iff (isRuleName_of_mem_rules h hr)]
  constructor
  · intro hfound
    have hid := List.find?_some hfound
    exact (of_decide_eq_true hid).symm
  · intro hid
    rw [hid]
    exact find?_describe_of_register h hr config

/-- What is shown of a rule that is found. -/
def explanation (s : RuleSummary) : CommandLine.OutputForm → CommandLine.Run
  | .json => .printing (Report.ruleJson s)
  | .screen => .showing (Report.ruleScreen s)

/-- A command goes on with the target that it is prepared. -/
theorem withTarget_of_ok {w : World} {p : Path} {target : Target}
    (htarget : prepareTarget w p = .ok target) (next : Target → CommandLine.Run) :
  CommandLine.withTarget w p next = next target
  := by
  -- `rw` would first derive an equation of `withTarget`, and look into `prepareTarget` for it
  delta CommandLine.withTarget
  rw [htarget]

/-- A command goes on with the rules of the project once they are loaded. -/
theorem withRules_of_target {w : World} {directory : Path} {target : Target}
    (htarget : prepareTarget w directory = .ok target)
    (h : (loadRules w.modules .initial target.config).result = .ok ())
    (next : List RuleSummary → CommandLine.Run) :
  CommandLine.withRules w directory next
    = .after (loadRules w.modules .initial target.config).log
      (next ((loadRules w.modules .initial target.config).registry.describe target.config))
  := by
  rw [CommandLine.withRules, withTarget_of_ok htarget]
  dsimp only
  rw [h]

/-- The command that explains rules shows the rule that it finds. -/
theorem runExplain_of_find? {w : World} {directory : Path} {target : Target} {rule : String}
    {s : RuleSummary} (htarget : prepareTarget w directory = .ok target)
    (h : (loadRules w.modules .initial target.config).result = .ok ())
    (hfound : ((loadRules w.modules .initial target.config).registry.describe
      target.config).find? (fun s => s.about.id = small (trimmed rule)) = some s)
    (form : CommandLine.OutputForm) :
  CommandLine.runExplain w rule directory form
    = .after (loadRules w.modules .initial target.config).log (explanation s form)
  := by
  rw [CommandLine.runExplain, withRules_of_target htarget h, hfound]
  cases form with
  | json => rfl
  | screen => rfl

/-- The rules of plugins have been registered, and `r` is a rule of the registry. When
directives can name it, the code that it is explained with turns it off in the whole file
and on the last line, so that it is suppressed on every line; when they cannot, the first
line of the code is refused. A project finds it under its name unless a line feed ends the
name, and then the command that explains rules shows it. -/
theorem silencingCode_of_register {rules : List Rule} {reg : Registry}
    (hreg : Registry.register rules = .ok reg) {r : Rule} (hr : r ∈ reg.rules) :
  (IsNameable r.id →
    (∀ file, readDirectives (Report.silencingCode r.id) file
      = .ok ⟨[r.id], [(4, [r.id])], false⟩)
    ∧ ∀ line, Suppressions.suppresses ⟨[r.id], [(4, [r.id])], false⟩ (some r.id) line = true)
  ∧ (¬ IsNameable r.id → ∀ file, ∃ e,
    readDirectives (Report.silencingCode r.id) file = .error e ∧ e.place = ⟨file, some 1⟩)
  ∧ (∀ config, (reg.describe config).find? (fun s => s.about.id = small (trimmed r.id))
      = some (r.summary config)
    ↔ IsIdentifier r.id.toList)
  ∧ (IsIdentifier r.id.toList → ∀ w directory target form,
    prepareTarget w directory = .ok target →
    (loadRules w.modules .initial target.config).result = .ok () →
    (loadRules w.modules .initial target.config).registry = reg →
    CommandLine.runExplain w r.id directory form
      = .after (loadRules w.modules .initial target.config).log
        (explanation (r.summary target.config) form))
  := by
  refine ⟨?_, ?_, find?_describe_small_trimmed_iff hreg hr, ?_⟩
  · intro hname
    use readDirectives_silencingCode_of_isNameable hname
    intro line
    simp [Suppressions.suppresses]
  · intro hname file
    exact readDirectives_silencingCode_of_not_isNameable (isRuleName_of_mem_rules hreg hr)
      hname file
  · intro hid w directory target form htarget hload hloaded
    apply runExplain_of_find? htarget hload
    rw [hloaded]
    exact (find?_describe_small_trimmed_iff hreg hr target.config).mpr hid

/-- A rule of a plugin that directives can name. -/
theorem silencingCode_of_register_no_log :
  let r := Rule.plugin
    { id := "no-log", title := "", description := "", severity := .warn } [] fun _ => .found []
  Registry.register [r] = .ok ⟨[r]⟩
  ∧ readDirectives (Report.silencingCode "no-log") none
    = .ok ⟨["no-log"], [(4, ["no-log"])], false⟩
  ∧ ∀ line, Suppressions.suppresses ⟨["no-log"], [(4, ["no-log"])], false⟩ (some "no-log") line
    = true
  := by
  intro r
  have hregister : Registry.register [r] = .ok ⟨[r]⟩ := by
    apply (register_eq_ok_iff _ _).mpr
    exact ⟨rfl, by decide +kernel, by decide⟩
  have hr : r ∈ Registry.rules ⟨[r]⟩ :=
    (mem_rules_iff _ r).mpr (Or.inr (List.mem_singleton_self r))
  have hname : IsNameable r.id := by
    refine ⟨(isIdentifier_iff_all _).mpr ⟨by decide, by decide⟩, ?_⟩
    rw [SpeaksOfNextLine]
    decide
  obtain ⟨hread, hsuppress⟩ := (silencingCode_of_register hregister hr).1 hname
  exact ⟨hregister, hread none, hsuppress⟩

/-- Rules whose names end with a line feed or speak of the next line are registered, and yet
the code that is said to silence them is refused. The first is not even found under its
name. -/
theorem silencingCode_refused :
  let rule := fun id => Rule.plugin
    { id := id, title := "", description := "", severity := .warn } [] fun _ => .found []
  Registry.register [rule "no-log\n", rule "no-disable-next-line"]
    = .ok ⟨[rule "no-log\n", rule "no-disable-next-line"]⟩
  ∧ readDirectives (Report.silencingCode "no-log\n") none
    = .error (.comment "Invalid file-level disable comment format" "/* avesta-disable no-log"
      ⟨none, some 1⟩)
  ∧ readDirectives (Report.silencingCode "no-disable-next-line") none
    = .error (.comment "Invalid disable-next-line comment format"
      "/* avesta-disable no-disable-next-line */" ⟨none, some 1⟩)
  ∧ (Registry.describe ⟨[rule "no-log\n", rule "no-disable-next-line"]⟩ {}).find?
      (fun s => s.about.id = small (trimmed "no-log\n"))
    = none
  := by
  intro rule
  refine ⟨?_, by decide +kernel, by decide +kernel, ?_⟩
  · apply (register_eq_ok_iff _ _).mpr
    exact ⟨rfl, by decide +kernel, by decide⟩
  · have hlookup : small (trimmed "no-log\n") = "no-log" := by decide +kernel
    have hids : ∀ r ∈ Rule.builtin ++ [rule "no-log\n", rule "no-disable-next-line"],
        r.id ≠ "no-log" := by
      decide +kernel
    apply List.find?_eq_none.mpr
    intro s hs hfound
    obtain ⟨r, hr, rfl⟩ := List.mem_map.mp hs
    have hid : r.id = small (trimmed "no-log\n") := of_decide_eq_true hfound
    exact hids r (List.mem_append.mpr ((mem_rules_iff _ r).mp hr)) (hid.trans hlookup)

end SourceAudit
