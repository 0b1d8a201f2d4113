import SourceAudit.CommandLine.Run
import SourceAudit.Proofs.Review.Tries
import SourceAudit.Proofs.Text.Utf8
import SourceAudit.Proofs.Value.JsonFaults

/-!
# What comes of replies

A service is asked for a review only with a key and with known texts; else the fault is found
before anything is sent. What comes of an exchange is a review or a fault that is reported,
whatever values a reply holds and wherever it holds them, and also when it is no text or no JSON.

* `ReviewService.Holds`, `Value.SaysWhy`: what is looked for in a reply.
* `Reply.ComesTo`: how a reply is answered by a review or by a fault that is reported.
* `Reply.BreaksOff`: the replies that cannot be read to their end. They show a number with too
  many digits or values nested too deep.
* `complete_text_or_fault`: what comes of a provider's exchange.
-/

namespace SourceAudit

open Text CommandLine

/-! ### Faults that are reported -/

/-- Whether a fault is reported; a run breaks down at any other. -/
def ReviewFault.isReported : ReviewFault → Bool
  | .tooManyDigits => false
  | .tooDeep => false
  | .delayOverflow => false
  | .noTry => false
  | _ => true

/-- A run that shows an exchange ends as broken, and not with a breakdown, when the fault is
reported. -/
theorem showReview_ending_eq_iff (e : Exchange (Option String)) :
  (showReview e).ending = .code brokenCode
    ↔ ∃ fault, e.outcome = .error fault ∧ fault.isReported = true
  := by
  cases houtcome : e.outcome with
  | ok review =>
      cases review with
      | none => simp [showReview, houtcome, Run.printing, brokenCode]
      | some text => simp [showReview, houtcome, Run.printing, brokenCode]
  | error fault =>
      cases fault
      all_goals simp [showReview, houtcome, Run.refusing, Run.breaking, ReviewFault.isReported]

/-! ### What a reply holds -/

/-- The value is a reply of the service that holds a review. -/
inductive ReviewService.Holds : ReviewService → Value → String → Prop where
  /-- The first choice has a message with the review as its content. -/
  | openai {v first message : Value} {others : List Value} {text : String}
      (hchoices : v.get? "choices" = some (.list (first :: others)))
      (hmessage : first.get? "message" = some message)
      (hcontent : message.get? "content" = some (.text text)) : Holds .openai v text
  /-- The content is a list that is not empty, and its blocks of text make up the review. -/
  | claude {v block : Value} {blocks : List Value}
      (hcontent : v.get? "content" = some (.list (block :: blocks))) :
      Holds .claude v (joinWith "\n" ((block :: blocks).filterMap blockText?))

/-- The value says in these words why a request is refused. -/
def Value.SaysWhy (v : Value) (words : String) : Prop :=
  ∃ error, v.get? "error" = some error ∧ error.get? "message" = some (.text words)

theorem Value.text?_eq_some_iff {v : Value} {text : String} :
  v.text? = some text ↔ v = .text text
  := by
  cases v
  all_goals simp [Value.text?]

theorem Value.list?_eq_some_iff {v : Value} {items : List Value} :
  v.list? = some items ↔ v = .list items
  := by
  cases v
  all_goals simp [Value.list?]

theorem bind_text?_eq_some_iff {found : Option Value} {text : String} :
  found.bind Value.text? = some text ↔ found = some (.text text)
  := by
  cases found with
  | none => simp
  | some v => rw [Option.bind_some, Value.text?_eq_some_iff, Option.some_inj]

theorem bind_list?_eq_some_iff {found : Option Value} {items : List Value} :
  found.bind Value.list? = some items ↔ found = some (.list items)
  := by
  cases found with
  | none => simp
  | some v => rw [Option.bind_some, Value.list?_eq_some_iff, Option.some_inj]

/-- The review that is read in a value is the one that it holds. -/
theorem reviewText?_eq_some_iff {service : ReviewService} {v : Value} {text : String} :
  reviewText? service v = some text ↔ service.Holds v text
  := by
  cases service with
  | openai =>
      constructor
      · intro h
        simp only [reviewText?, Option.bind_eq_bind, Option.bind_eq_some_iff] at h
        obtain ⟨choices, hchoices, items, hitems, first, hfirst, message, hmessage, content,
          hcontent, htext⟩ := h
        obtain ⟨others, rfl⟩ := List.head?_eq_some_iff.mp hfirst
        obtain rfl := Value.list?_eq_some_iff.mp hitems
        obtain rfl := Value.text?_eq_some_iff.mp htext
        exact .openai hchoices hmessage hcontent
      · intro h
        cases h with
        | openai hchoices hmessage hcontent =>
            simp [reviewText?, hchoices, hmessage, hcontent, Value.list?, Value.text?]
  | claude =>
      constructor
      · intro h
        rw [reviewText?] at h
        split at h
        · rename_i block blocks hcontent
          cases h
          exact .claude (bind_list?_eq_some_iff.mp hcontent)
        · cases h
      · intro h
        cases h with
        | claude hcontent => simp [reviewText?, hcontent, Value.list?]

theorem saysWhy_iff {v : Value} {words : String} :
  v.SaysWhy words
    ↔ ((v.get? "error").bind (·.get? "message")).bind Value.text? = some words
  := by rw [bind_text?_eq_some_iff, Option.bind_eq_some_iff, Value.SaysWhy]

/-! ### What a reply comes to -/

/-- The reply is answered by a review, or by a fault that is reported. -/
inductive Reply.ComesTo (service : ReviewService) : Reply → Except ReviewFault String → Prop where
  | unreachable (reason : String) :
      ComesTo service (.unreachable reason) (.error (.unreachable reason))
  | late (reason : String) : ComesTo service (.timeout reason) (.error (.unreachable reason))
  | review {body : Octets} {v : Value} {text : String} (hread : readBody body = .ok v)
      (hholds : service.Holds v text) : ComesTo service (.answer 200 body) (.ok text)
  | unexpectedFormat {body : Octets} {v : Value} (hread : readBody body = .ok v)
      (hnone : ∀ text, ¬ service.Holds v text) :
      ComesTo service (.answer 200 body) (.error (.unexpectedFormat service))
  | notJson {body : Octets} (hread : readBody body = .error .malformed) :
      ComesTo service (.answer 200 body) (.error .notJson)
  | refused {status : Int} {body : Octets} {v : Value} {words : String} (hstatus : status ≠ 200)
      (hread : readBody body = .ok v) (hwords : v.SaysWhy words) :
      ComesTo service (.answer status body) (.error (.refused words))
  | refusedWithoutWords {status : Int} {body : Octets} {v : Value} (hstatus : status ≠ 200)
      (hread : readBody body = .ok v) (hnone : ∀ words, ¬ v.SaysWhy words) :
      ComesTo service (.answer status body) (.error (.refused "Unknown error"))
  /-- Of the words of a refusal it does not matter why they cannot be read. -/
  | refusedUnread {status : Int} {body : Octets} {fault : Json.Fault} (hstatus : status ≠ 200)
      (hread : readBody body = .error fault) (hfault : fault ≠ .tooDeep) :
      ComesTo service (.answer status body) (.error (.refused ("HTTP " ++ intText status)))

/-- The reply is not read to its end, and nothing is reported. -/
inductive Reply.BreaksOff : Reply → ReviewFault → Prop where
  | tooManyDigits {body : Octets} (hread : readBody body = .error .tooManyDigits) :
      BreaksOff (.answer 200 body) .tooManyDigits
  | tooDeep {status : Int} {body : Octets} (hread : readBody body = .error .tooDeep) :
      BreaksOff (.answer status body) .tooDeep

section

variable {service : ReviewService} {reply : Reply} {fault : ReviewFault}

theorem Reply.ComesTo.isReported (h : reply.ComesTo service (.error fault)) :
  fault.isReported = true
  := by
  cases h
  all_goals rfl

/-- What a refusal comes to, by what can be read of it. -/
theorem comesTo_or_breaksOff_of_refusal {status : Int} (hstatus : status ≠ 200) (body : Octets) :
  (Reply.answer status body).ComesTo service (.error (refusal status body))
    ∨ (Reply.answer status body).BreaksOff (refusal status body)
  := by
  rw [refusal]
  split
  · rename_i v hread
    rw [refusalWords]
    cases hwords : ((v.get? "error").bind (·.get? "message")).bind Value.text? with
    | some words => exact Or.inl (.refused hstatus hread (saysWhy_iff.mpr hwords))
    | none =>
        apply Or.inl
        apply Reply.ComesTo.refusedWithoutWords hstatus hread
        intro words h
        rw [saysWhy_iff, hwords] at h
        cases h
  · rename_i hread
    exact Or.inr (.tooDeep hread)
  · rename_i fault hfault hread
    exact Or.inl (.refusedUnread hstatus hread hfault)

/-- Every reply comes to a review or a fault that is reported, or is not read to its end. -/
theorem comesTo_or_breaksOff (service : ReviewService) (reply : Reply) :
  reply.ComesTo service (reply.outcome service)
    ∨ ∃ fault, reply.BreaksOff fault ∧ reply.outcome service = .error fault
  := by
  cases reply with
  | unreachable reason => exact Or.inl (.unreachable reason)
  | timeout reason => exact Or.inl (.late reason)
  | answer status body =>
      rw [Reply.outcome]
      split
      · rename_i hstatus
        exact (comesTo_or_breaksOff_of_refusal hstatus body).imp id fun h => ⟨_, h, rfl⟩
      · rename_i hstatus
        obtain rfl := Decidable.not_not.mp hstatus
        split
        · rename_i hread
          exact Or.inl (.notJson hread)
        · rename_i hread
          exact Or.inr ⟨_, .tooManyDigits hread, rfl⟩
        · rename_i hread
          exact Or.inr ⟨_, .tooDeep hread, rfl⟩
        · rename_i v hread
          apply Or.inl
          cases hreview : reviewText? service v with
          | some text => exact .review hread (reviewText?_eq_some_iff.mp hreview)
          | none =>
              apply Reply.ComesTo.unexpectedFormat hread
              intro text h
              rw [← reviewText?_eq_some_iff, hreview] at h
              cases h

/-! ### Replies within limits -/

/-- The text of the reply, if it is one, has no number that is too long, unless the reply is a
refusal, and does not open more lists and tables than may be nested. -/
def Reply.IsWithinLimits : Reply → Prop
  | .answer status body => ∀ text, decodeStrict body = .ok text →
    (status = 200 → ¬ Json.HasLongNumber text) ∧ text.countP Json.isOpening ≤ Json.nestingLimit
  | _ => True

/-- A fault of a body other than that it is no JSON is one of its text. -/
theorem exists_text_of_readBody {body : Octets} {fault : Json.Fault}
    (h : readBody body = .error fault) (hfault : fault ≠ .malformed) :
  ∃ text, decodeStrict body = .ok text ∧ fault.IsFaultOf Json.nestingLimit text
  := by
  rw [readBody] at h
  split at h
  · rename_i text htext
    exact ⟨text, htext, Json.isFaultOf_of_readWithin h⟩
  · cases h
    exact absurd rfl hfault

theorem Reply.IsWithinLimits.not_breaksOff (h : reply.IsWithinLimits) (fault : ReviewFault) :
  ¬ reply.BreaksOff fault
  := by
  intro hbreaks
  cases hbreaks with
  | tooManyDigits hread =>
      obtain ⟨text, htext, hlong⟩ := exists_text_of_readBody hread nofun
      exact (h text htext).1 rfl hlong
  | tooDeep hread =>
      obtain ⟨text, htext, hdeep⟩ := exists_text_of_readBody hread nofun
      exact Nat.not_lt.mpr (h text htext).2 hdeep

end

/-! ### Faults before anything is sent -/

theorem namedPrompt_of_not_mem {name : String} (h : name ∉ namedPrompts.map (·.1)) :
  namedPrompt name = .error ⟨name⟩
  := by
  have hnone : namedPrompts.lookup name = none := by
    rw [List.lookup_eq_none_iff]
    intro entry hentry
    rw [bne_iff_ne]
    rintro rfl
    exact h (List.mem_map_of_mem hentry)
  rw [namedPrompt, hnone]

/-- The first unknown text among those chosen is at fault. -/
theorem chosenPrompts_of_unknown {names : List String}
    (h : ∃ name ∈ names, name ∉ namedPrompts.map (·.1)) :
  ∃ name, names.find? (fun name => name ∉ namedPrompts.map (·.1)) = some name
    ∧ chosenPrompts names = .error ⟨name⟩
  := by
  have hfirst : ∃ name, names.find? (fun name => name ∉ namedPrompts.map (·.1)) = some name
      ∧ names.mapM namedPrompt = .error ⟨name⟩ := by
    induction names with
    | nil => simp at h
    | cons name names ih =>
        rw [List.mapM_cons]
        by_cases hname : name ∈ namedPrompts.map (·.1)
        · have hlater : ∃ name ∈ names, name ∉ namedPrompts.map (·.1) := by
            simpa only [List.exists_mem_cons_iff, hname, not_true, false_or] using h
          obtain ⟨unknown, hfind, hfault⟩ := ih hlater
          obtain ⟨text, htext⟩ := exists_namedPrompt hname
          rw [List.find?_cons_of_neg (by simpa using hname), htext, hfault]
          exact ⟨unknown, hfind, rfl⟩
        · rw [List.find?_cons_of_pos (by simpa using hname), namedPrompt_of_not_mem hname]
          exact ⟨name, rfl, rfl⟩
  obtain ⟨name, hfind, hfault⟩ := hfirst
  rw [chosenPrompts, hfault]
  exact ⟨name, hfind, rfl⟩

section

variable (w : World) (p : Provider) (prompt : String)

theorem complete_of_no_key
    (hkey : trimmed ((w.environmentValue p.service.keyVariable).getD "") = "") :
  p.complete w prompt = .silent (.error (.missingKey p.service.keyVariable))
  := by
  have hread : p.key w = .error (.missingKey p.service.keyVariable) := if_pos hkey
  rw [Provider.complete, Provider.request, hread]
  rfl

section

variable (hkey : trimmed ((w.environmentValue p.service.keyVariable).getD "") ≠ "")

include hkey

theorem complete_of_unknown_prompt
    (hprompts : ∃ name ∈ p.prompts, name ∉ namedPrompts.map (·.1)) :
  ∃ name, p.prompts.find? (fun name => name ∉ namedPrompts.map (·.1)) = some name
    ∧ p.complete w prompt = .silent (.error (.prompt ⟨name⟩))
  := by
  obtain ⟨name, hfind, hfault⟩ := chosenPrompts_of_unknown hprompts
  use name, hfind
  rw [Provider.complete, Provider.request, key_of_ne hkey, hfault]
  rfl

/-- With a key and known texts what comes of an exchange is what comes of the last reply, unless
a delay is beyond reckoning. -/
theorem outcome_complete (hprompts : ∀ name ∈ p.prompts, name ∈ namedPrompts.map (·.1))
    (htries : 0 < p.tries.toNat) {made : Nat}
    (hmade : triesMade w.replies p.tries.toNat = made) :
  (p.complete w prompt).outcome = if made ≤ firstUnreckonedTry + 1
    then (replyAt w.replies (made - 1)).outcome p.service else .error .delayOverflow
  := by
  obtain ⟨request, hrequest⟩ := exists_request w p hkey hprompts prompt
  have hall : ((0 : Nat) : Int) + p.tries.toNat = p.tries := by omega
  obtain ⟨-, hcomes⟩ := exchangeFrom_eq w.jitter p.service request _ 0 htries hall
    (Nat.zero_le _) w.replies hmade
  rw [Nat.zero_add] at hcomes
  exact (complete_of_request hrequest).2.trans hcomes

end

end

/-! ### Exchanges -/

/-- Without a key or with an unknown text a provider reports the fault and sends nothing. Else
what comes of its exchange is a review or a fault that is reported, whatever the last reply holds,
unless that reply cannot be read to its end or a delay is beyond reckoning. -/
theorem complete_text_or_fault (w : World) (service : ReviewService) (model : Option String)
    (prompts : List String) (timeout tries : Int) (prompt : String) :
  let e := (Provider.of service model prompts timeout tries).complete w prompt
  let key := trimmed ((w.environmentValue service.keyVariable).getD "")
  let made := triesMade w.replies (max 1 tries).toNat
  let last := replyAt w.replies (made - 1)
  (key = "" → e = .silent (.error (.missingKey service.keyVariable)))
    ∧ (key ≠ "" → (∃ name ∈ prompts, name ∉ namedPrompts.map (·.1)) →
      ∃ name, prompts.find? (fun name => name ∉ namedPrompts.map (·.1)) = some name
        ∧ e = .silent (.error (.prompt ⟨name⟩)))
    ∧ (key ≠ "" → (∀ name ∈ prompts, name ∈ namedPrompts.map (·.1)) →
      (made ≤ firstUnreckonedTry + 1 → last.ComesTo service e.outcome
        ∨ ∃ fault, last.BreaksOff fault ∧ e.outcome = .error fault)
      ∧ (firstUnreckonedTry + 1 < made → e.outcome = .error .delayOverflow))
    ∧ (made ≤ firstUnreckonedTry + 1 → last.IsWithinLimits →
      (∃ text, e.outcome = .ok text)
        ∨ ∃ fault, e.outcome = .error fault ∧ fault.isReported = true)
  := by
  intro e key made last
  let p := Provider.of service model prompts timeout tries
  have hmissing : key = "" → e = .silent (.error (.missingKey service.keyVariable)) :=
    complete_of_no_key w p prompt
  have hunknown : key ≠ "" → (∃ name ∈ prompts, name ∉ namedPrompts.map (·.1)) →
      ∃ name, prompts.find? (fun name => name ∉ namedPrompts.map (·.1)) = some name
        ∧ e = .silent (.error (.prompt ⟨name⟩)) :=
    complete_of_unknown_prompt w p prompt
  have husable (hkey : key ≠ "") (hprompts : ∀ name ∈ prompts, name ∈ namedPrompts.map (·.1)) :
      e.outcome = if made ≤ firstUnreckonedTry + 1 then last.outcome service
        else .error .delayOverflow := by
    have hone : 0 < (max 1 tries).toNat := by omega
    exact outcome_complete w p prompt hkey hprompts hone rfl
  have hcomes := comesTo_or_breaksOff service last
  clear_value e
  refine ⟨hmissing, hunknown, ?_, ?_⟩
  · intro hkey hprompts
    rw [husable hkey hprompts]
    constructor
    · intro hreckoned
      rw [if_pos hreckoned]
      exact hcomes
    · intro hbeyond
      exact if_neg (Nat.not_le.mpr hbeyond)
  · intro hreckoned hlimits
    by_cases hkey : key = ""
    · rw [hmissing hkey]
      exact Or.inr ⟨_, rfl, rfl⟩
    · by_cases hprompts : ∀ name ∈ prompts, name ∈ namedPrompts.map (·.1)
      · rw [husable hkey hprompts, if_pos hreckoned]
        rcases hcomes with hcomes | ⟨fault, hbreaks, -⟩
        · cases houtcome : last.outcome service with
          | ok text => exact Or.inl ⟨text, rfl⟩
          | error fault =>
              rw [houtcome] at hcomes
              exact Or.inr ⟨fault, rfl, hcomes.isReported⟩
        · exact absurd hbreaks (hlimits.not_breaksOff fault)
      · have hsome : ∃ name ∈ prompts, name ∉ namedPrompts.map (·.1) := by
          simpa only [not_forall, exists_prop] using hprompts
        obtain ⟨name, -, he⟩ := hunknown hkey hsome
        rw [he]
        exact Or.inr ⟨_, rfl, rfl⟩

/-- A table stands where a list of blocks is expected. -/
theorem complete_text_or_fault_of_table :
  let w : World := {
    environment := [("AI_PROVIDER_API_KEY", "key")]
    replies := [.answer 200 (encode "\x7b\"content\": \x7b\"0\": []\x7d\x7d".toList)] }
  let e := (Provider.of .claude none ["code-review"] 60 3).complete w "1: x"
  (∃ text, e.outcome = .ok text) ∨ ∃ fault, e.outcome = .error fault ∧ fault.isReported = true
  := by
  intro w e
  have hmade : triesMade w.replies (max 1 3 : Int).toNat = 1 := by rfl
  obtain ⟨-, -, -, hend⟩ := complete_text_or_fault w .claude none ["code-review"] 60 3 "1: x"
  rw [hmade] at hend
  apply hend (by decide)
  intro text htext
  rw [decodeStrict_eq_ok_iff.mpr rfl] at htext
  cases htext
  constructor
  · rintro - ⟨digits, hinfix, hlong, -⟩
    exact absurd (hlong.trans_le hinfix.length_le) (by decide)
  · decide

/-- A reply that is a number with too many digits is neither a review nor a fault that is
reported, though it is JSON. -/
theorem complete_of_long_number :
  let w : World := {
    environment := [("OPENAI_API_KEY", "key")]
    replies := [.answer 200 (encode (Nat.toDigits 10 (10 ^ maxDigits)))] }
  let e := (Provider.of .openai none [] 60 3).complete w "1: x"
  e.outcome = .error .tooManyDigits ∧ ReviewFault.tooManyDigits.isReported = false
  := by
  intro w e
  have hbody : readBody (encode (Nat.toDigits 10 (10 ^ maxDigits))) = .error .tooManyDigits := by
    rw [readBody, decodeStrict_eq_ok_iff.mpr rfl]
    exact Json.read_toDigits_of_le le_rfl
  have houtcome := outcome_complete w (Provider.of .openai none [] 60 3) "1: x"
    (by decide +kernel) nofun (by decide) (by rfl : triesMade w.replies _ = 1)
  have hlast : replyAt w.replies (1 - 1)
      = .answer 200 (encode (Nat.toDigits 10 (10 ^ maxDigits))) := rfl
  rw [if_pos (by decide), hlast, Reply.outcome, if_neg (by decide), hbody] at houtcome
  exact ⟨houtcome, rfl⟩

end SourceAudit
