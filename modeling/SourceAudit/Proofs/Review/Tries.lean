import SourceAudit.Review.Exchange
import Mathlib.Algebra.Order.Field.Rat
import Mathlib.Tactic.Linarith
import Mathlib.Tactic.Positivity
import Mathlib.Tactic.Ring
import Mathlib.Tactic.Use

/-!
# Tries

A provider makes its request until a reply ends the exchange or the tries are used up. Between
every two requests it waits once, for a time that lies in the upper half of the longest delay of
that try, and what comes of it is what comes of the last reply. Only after too many tries in
vain the delay is beyond reckoning, and the exchange breaks off.
-/

namespace SourceAudit

open Text

/-! ### Delays -/

theorem longestDelay_eq_min (attempt : Nat) :
  longestDelay attempt = min 8 (1 / 2 * 2 ^ attempt)
  := by
  have hhalf : (2 : Rat) ^ attempt / 2 = 1 / 2 * 2 ^ attempt := by ring
  rw [longestDelay, hhalf, min_comm, min_def]

/-- What is waited lies in the upper half of the longest delay. -/
theorem delay_mem_upper_half {share : Rat} (hlow : 0 ≤ share) (hhigh : share ≤ 1)
    (attempt : Nat) :
  min 8 (1 / 2 * 2 ^ attempt) / 2 ≤ delay share attempt
    ∧ delay share attempt ≤ min 8 (1 / 2 * 2 ^ attempt)
  := by
  have hpos : 0 ≤ longestDelay attempt / 2 := by
    rw [longestDelay_eq_min]
    positivity
  rw [← longestDelay_eq_min, delay]
  constructor
  · have hshare := mul_nonneg hlow hpos
    linarith
  · have hshare := mul_le_mul_of_nonneg_right hhigh hpos
    linarith

/-! ### Replies -/

/-- The reply to a request, counted from zero. -/
def replyAt (replies : List Reply) (n : Nat) : Reply :=
  replies[n]?.getD missingReply

/-- The first reply that ends an exchange by itself, if there is one. -/
def firstFinal? (replies : List Reply) : Option Nat :=
  replies.findIdx? fun reply => !reply.isPassing

/-- How many requests are made when so many are allowed: as many as it takes to the first reply
that ends the exchange. -/
def triesMade (replies : List Reply) (allowed : Nat) : Nat :=
  match firstFinal? replies with
  | some k => min (k + 1) allowed
  | none => allowed

theorem isPassing_missingReply :
  missingReply.isPassing = true
  := by decide

theorem triesMade_one (replies : List Reply) :
  triesMade replies 1 = 1
  := by
  rw [triesMade]
  split
  · omega
  · rfl

theorem triesMade_of_final {replies : List Reply} (h : (replyAt replies 0).isPassing = false)
    {allowed : Nat} (hallowed : 0 < allowed) :
  triesMade replies allowed = 1
  := by
  cases replies with
  | nil =>
      rw [replyAt, List.getElem?_nil, Option.getD_none, isPassing_missingReply] at h
      cases h
  | cons reply rest =>
      have hreply : reply.isPassing = false := h
      rw [triesMade, firstFinal?, List.findIdx?_cons, hreply]
      exact Nat.min_eq_left hallowed

theorem triesMade_of_passing {replies : List Reply} (h : (replyAt replies 0).isPassing = true)
    (allowed : Nat) :
  triesMade replies (allowed + 1) = triesMade replies.tail allowed + 1
  := by
  cases replies with
  | nil => rfl
  | cons reply rest =>
      have hreply : reply.isPassing = true := h
      rw [triesMade, triesMade, firstFinal?, List.findIdx?_cons, hreply, List.tail_cons,
        firstFinal?]
      cases rest.findIdx? fun reply => !reply.isPassing with
      | none => rfl
      | some k => simp

theorem triesMade_pos (replies : List Reply) {allowed : Nat} (h : 0 < allowed) :
  0 < triesMade replies allowed
  := by
  rw [triesMade]
  split
  · omega
  · exact h

/-- No reply comes to the end of the tries. -/
theorem outcome_ne_noTry (service : ReviewService) (reply : Reply) :
  reply.outcome service ≠ .error .noTry
  := by
  cases reply with
  | unreachable reason => exact nofun
  | timeout reason => exact nofun
  | answer status body =>
      rw [Reply.outcome]
      split
      · rw [refusal]
        split
        all_goals exact nofun
      · split
        · exact nofun
        · exact nofun
        · exact nofun
        · split
          · exact nofun
          · exact nofun

/-! ### Exchanges -/

/-- A request that is made, and once more after each of some delays. -/
def turns (request : Request) (delays : List Rat) : List Act :=
  match delays with
  | [] => [.send request]
  | seconds :: rest => .send request :: .wait seconds :: turns request rest

/-- The delays after some tries in a row. -/
def delaysFrom (jitter : Nat → Rat) (attempt count : Nat) : List Rat :=
  (List.range' attempt count).map fun i => delay (jitter i) i

theorem requests_turns (request : Request) (delays : List Rat) :
  (turns request delays).filterMap Act.request? = List.replicate (delays.length + 1) request
  := by
  induction delays with
  | nil => rfl
  | cons seconds rest ih =>
      have hfirst : (turns request (seconds :: rest)).filterMap Act.request?
          = request :: (turns request rest).filterMap Act.request? := rfl
      rw [hfirst, ih]
      rfl

theorem length_delaysFrom (jitter : Nat → Rat) (attempt count : Nat) :
  (delaysFrom jitter attempt count).length = count
  := by rw [delaysFrom, List.length_map, List.length_range']

theorem eq_of_getElem?_delaysFrom {jitter : Nat → Rat} {attempt count i : Nat} {seconds : Rat}
    (h : (delaysFrom jitter attempt count)[i]? = some seconds) :
  seconds = delay (jitter (attempt + i)) (attempt + i)
  := by
  rw [delaysFrom, List.getElem?_map, Option.map_eq_some_iff] at h
  obtain ⟨n, hn, rfl⟩ := h
  obtain ⟨hi, rfl⟩ := List.getElem?_eq_some_iff.mp hn
  rw [List.getElem_range', Nat.one_mul]

section
variable (jitter : Nat → Rat) (service : ReviewService) (request : Request) {tries : Int}
  (left attempt : Nat)

theorem head?_getD_eq_replyAt (replies : List Reply) :
  replies.head?.getD missingReply = replyAt replies 0
  := by rw [replyAt, List.head?_eq_getElem?]

/-- The request is made again after a passing reply to any try but the last. -/
theorem goesOn_iff (reply : Reply) :
  (reply.isPassing && decide ((attempt : Int) < tries - 1)) = true
    ↔ reply.isPassing = true ∧ (attempt : Int) + 1 < tries
  := by
  rw [Bool.and_eq_true, decide_eq_true_iff]
  apply and_congr_right
  intro _
  omega

/-- The last of the tries ends the exchange, and so does any other reply than a passing one. -/
theorem exchangeFrom_of_end {replies : List Reply}
    (h : (replyAt replies 0).isPassing = true → tries ≤ attempt + 1) :
  exchangeFrom jitter service request tries (left + 1) attempt replies
    = { acts := [.send request], outcome := (replyAt replies 0).outcome service }
  := by
  rw [exchangeFrom, head?_getD_eq_replyAt]
  apply if_neg
  rw [goesOn_iff]
  rintro ⟨hpassing, hmore⟩
  have hlast := h hpassing
  omega

section
variable {replies : List Reply} (h : (replyAt replies 0).isPassing = true)
  (hmore : (attempt : Int) + 1 < tries)

include h hmore

/-- After a passing reply, unless it is to the last try, the request is made again. -/
theorem exchangeFrom_of_passing (hreckoned : attempt < firstUnreckonedTry) :
  let e := exchangeFrom jitter service request tries (left + 1) attempt replies
  let later := exchangeFrom jitter service request tries left (attempt + 1) replies.tail
  e.acts = .send request :: .wait (delay (jitter attempt) attempt) :: later.acts
    ∧ e.outcome = later.outcome
  := by
  intro e later
  have hagain := (goesOn_iff attempt (replyAt replies 0)).mpr ⟨h, hmore⟩
  have he : e = exchangeFrom jitter service request tries (left + 1) attempt replies := rfl
  rw [exchangeFrom, head?_getD_eq_replyAt] at he
  dsimp only at he
  rw [if_pos hagain, if_neg (Nat.not_le.mpr hreckoned)] at he
  rw [he]
  exact ⟨rfl, rfl⟩

/-- When the delay is beyond reckoning, the exchange breaks off. -/
theorem exchangeFrom_of_unreckoned (hunreckoned : firstUnreckonedTry ≤ attempt) :
  let e := exchangeFrom jitter service request tries (left + 1) attempt replies
  e.acts = [.send request] ∧ e.outcome = .error .delayOverflow
  := by
  intro e
  have hagain := (goesOn_iff attempt (replyAt replies 0)).mpr ⟨h, hmore⟩
  have he : e = exchangeFrom jitter service request tries (left + 1) attempt replies := rfl
  rw [exchangeFrom, head?_getD_eq_replyAt] at he
  dsimp only at he
  rw [if_pos hagain, if_pos hunreckoned] at he
  rw [he]
  exact ⟨rfl, rfl⟩

end

theorem replyAt_tail (replies : List Reply) (n : Nat) :
  replyAt replies.tail n = replyAt replies (n + 1)
  := by
  rw [replyAt, replyAt, List.getElem?_tail]

/-- What is sent and waited in the tries that are left, and what comes of it. -/
theorem exchangeFrom_eq (hleft : 0 < left) (htries : (attempt : Int) + left = tries)
    (hreckoned : attempt ≤ firstUnreckonedTry) (replies : List Reply) {made : Nat}
    (hmade : triesMade replies left = made) :
  let e := exchangeFrom jitter service request tries left attempt replies
  e.acts = turns request
      (delaysFrom jitter attempt (min (made - 1) (firstUnreckonedTry - attempt)))
    ∧ e.outcome = if attempt + made ≤ firstUnreckonedTry + 1
        then (replyAt replies (made - 1)).outcome service else .error .delayOverflow
  := by
  intro e
  induction left generalizing attempt replies made with
  | zero => exact absurd hleft (Nat.lt_irrefl 0)
  | succ left ih =>
      by_cases hend : (replyAt replies 0).isPassing = true → tries ≤ attempt + 1
      · have he : e = _ := exchangeFrom_of_end jitter service request left attempt hend
        have hone : triesMade replies (left + 1) = 1 := by
          cases hpassing : (replyAt replies 0).isPassing with
          | false => exact triesMade_of_final hpassing hleft
          | true =>
              have hlast := hend hpassing
              obtain rfl : left = 0 := by omega
              exact triesMade_one replies
        rw [hone] at hmade
        subst hmade
        rw [he, if_pos (by omega), Nat.sub_self, Nat.zero_min]
        exact ⟨rfl, rfl⟩
      · rw [Classical.not_imp, Int.not_le] at hend
        obtain ⟨hpassing, hmore⟩ := hend
        have hpos : 0 < triesMade replies.tail left := triesMade_pos _ (by omega)
        rw [triesMade_of_passing hpassing] at hmade
        subst hmade
        by_cases hbeyond : firstUnreckonedTry ≤ attempt
        · obtain ⟨hacts, houtcome⟩ :=
            exchangeFrom_of_unreckoned jitter service request left attempt hpassing hmore hbeyond
          rw [if_neg (by omega), Nat.sub_eq_zero_of_le hbeyond, Nat.min_zero]
          exact ⟨hacts, houtcome⟩
        · obtain ⟨hacts, houtcome⟩ := exchangeFrom_of_passing jitter service request left attempt
            hpassing hmore (Nat.lt_of_not_le hbeyond)
          obtain ⟨hlater, hcomes⟩ := ih (attempt + 1) (by omega) (by omega) (by omega)
            replies.tail rfl
          have hcount : min (triesMade replies.tail left + 1 - 1) (firstUnreckonedTry - attempt)
              = min (triesMade replies.tail left - 1) (firstUnreckonedTry - (attempt + 1)) + 1 := by
            omega
          have hlast : replyAt replies.tail (triesMade replies.tail left - 1)
              = replyAt replies (triesMade replies.tail left + 1 - 1) := by
            rw [replyAt_tail]
            congr 1
            omega
          constructor
          · rw [hacts, hlater, hcount, delaysFrom, delaysFrom, List.range'_succ]
            rfl
          · rw [houtcome, hcomes, hlast]
            congr 1
            rw [Nat.add_right_comm, Nat.add_assoc]

end

/-! ### Usable providers -/

theorem exists_namedPrompt {name : String} (h : name ∈ namedPrompts.map (·.1)) :
  ∃ text, namedPrompt name = .ok text
  := by
  have hknown : namedPrompts.lookup name ≠ none := by
    intro hnone
    obtain ⟨entry, hentry, rfl⟩ := List.mem_map.mp h
    simpa using List.lookup_eq_none_iff.mp hnone entry hentry
  obtain ⟨text, htext⟩ := Option.ne_none_iff_exists'.mp hknown
  rw [namedPrompt, htext]
  exact ⟨text, rfl⟩

theorem exists_chosenPrompts {names : List String}
    (h : ∀ name ∈ names, name ∈ namedPrompts.map (·.1)) :
  ∃ chosen, chosenPrompts names = .ok chosen
  := by
  have hall : ∃ texts, names.mapM namedPrompt = .ok texts := by
    induction names with
    | nil => exact ⟨[], rfl⟩
    | cons name names ih =>
        obtain ⟨hname, hnames⟩ := List.forall_mem_cons.mp h
        obtain ⟨texts, htexts⟩ := ih hnames
        obtain ⟨text, htext⟩ := exists_namedPrompt hname
        rw [List.mapM_cons, htext, htexts]
        exact ⟨_, rfl⟩
  obtain ⟨texts, htexts⟩ := hall
  rw [chosenPrompts, htexts]
  exact ⟨_, rfl⟩

theorem key_of_ne {w : World} {p : Provider}
    (h : trimmed ((w.environmentValue p.service.keyVariable).getD "") ≠ "") :
  p.key w = .ok (trimmed ((w.environmentValue p.service.keyVariable).getD ""))
  := if_neg h

/-- With a key and known texts the request of a provider can be made. -/
theorem exists_request (w : World) (p : Provider)
    (hkey : trimmed ((w.environmentValue p.service.keyVariable).getD "") ≠ "")
    (hprompts : ∀ name ∈ p.prompts, name ∈ namedPrompts.map (·.1)) (prompt : String) :
  ∃ request, p.request w prompt = .ok request
  := by
  obtain ⟨chosen, hchosen⟩ := exists_chosenPrompts hprompts
  rw [Provider.request, key_of_ne hkey, hchosen]
  exact ⟨_, rfl⟩

/-- What a provider sends and waits, and what comes of it, is that of its tries. -/
theorem complete_of_request {w : World} {p : Provider} {prompt : String} {request : Request}
    (h : p.request w prompt = .ok request) :
  let tried := exchangeFrom w.jitter p.service request p.tries p.tries.toNat 0 w.replies
  (p.complete w prompt).acts = tried.acts ∧ (p.complete w prompt).outcome = tried.outcome
  := by
  rw [Provider.complete, h]
  exact ⟨rfl, rfl⟩

/-- A provider with a key and known texts makes the same request over and over, up to the first
reply that ends the exchange or the last of its tries, and waits once between every two of them.
What comes of it is what comes of the last reply, unless a delay is beyond reckoning. -/
theorem complete_of_usable (w : World) (service : ReviewService) (model : Option String)
    (prompts : List String) (timeout tries : Int) (prompt : String)
    (hkey : trimmed ((w.environmentValue service.keyVariable).getD "") ≠ "")
    (hprompts : ∀ name ∈ prompts, name ∈ namedPrompts.map (·.1))
    (hjitter : ∀ i, 0 ≤ w.jitter i ∧ w.jitter i ≤ 1) :
  let p := Provider.of service model prompts timeout tries
  let e := p.complete w prompt
  let made := triesMade w.replies (max 1 tries).toNat
  ∃ request delays, p.request w prompt = .ok request
    ∧ e.acts = turns request delays
    ∧ (∀ i seconds, delays[i]? = some seconds →
      min 8 (1 / 2 * 2 ^ i : Rat) / 2 ≤ seconds ∧ seconds ≤ min 8 (1 / 2 * 2 ^ i : Rat))
    ∧ (made ≤ firstUnreckonedTry + 1 → delays.length + 1 = made
      ∧ e.outcome = (replyAt w.replies delays.length).outcome service)
    ∧ (firstUnreckonedTry + 1 < made → delays.length = firstUnreckonedTry
      ∧ e.outcome = .error .delayOverflow)
    ∧ e.outcome ≠ .error .noTry
  := by
  intro p e made
  obtain ⟨request, hrequest⟩ := exists_request w p hkey hprompts prompt
  have htries : 0 < (max 1 tries).toNat := by omega
  have hmade : 0 < made := triesMade_pos w.replies htries
  obtain ⟨hacts, houtcome⟩ := complete_of_request hrequest
  have hall : ((0 : Nat) : Int) + (max 1 tries).toNat = max 1 tries := by omega
  have hcount : triesMade w.replies (max 1 tries).toNat = made := rfl
  obtain ⟨hsent, hcomes⟩ := exchangeFrom_eq w.jitter service request _ 0 htries hall
    (Nat.zero_le _) w.replies hcount
  rw [Nat.sub_zero] at hsent
  rw [Nat.zero_add] at hcomes
  use request, delaysFrom w.jitter 0 (min (made - 1) firstUnreckonedTry), hrequest
  rw [length_delaysFrom]
  have hfinal : e.outcome = if made ≤ firstUnreckonedTry + 1
      then (replyAt w.replies (made - 1)).outcome service else .error .delayOverflow :=
    houtcome.trans hcomes
  refine ⟨hacts.trans hsent, ?_, ?_, ?_, ?_⟩
  · intro i seconds hget
    obtain ⟨hlow, hhigh⟩ := hjitter i
    rw [eq_of_getElem?_delaysFrom hget, Nat.zero_add]
    exact delay_mem_upper_half hlow hhigh i
  · intro hreckoned
    rw [if_pos hreckoned] at hfinal
    rw [Nat.min_eq_left (by omega)]
    exact ⟨by omega, hfinal⟩
  · intro hbeyond
    rw [if_neg (by omega)] at hfinal
    exact ⟨by omega, hfinal⟩
  · rw [hfinal]
    split
    · apply outcome_ne_noTry
    · exact nofun

/-- Two passing replies and a review. -/
theorem complete_of_usable_third_try :
  let w : World := {
    environment := [("OPENAI_API_KEY", " key ")]
    replies := [.answer 429 [], .timeout "late", .answer 200 (encode
      "\x7b\"choices\": [\x7b\"message\": \x7b\"content\": \"fine\"\x7d\x7d]\x7d".toList)] }
  let p := Provider.of .openai none ["code-review"] 60 5
  let e := p.complete w "1: x"
  ∃ request delays, e.acts = turns request delays ∧ delays.length = 2 ∧ e.outcome = .ok "fine"
  := by
  intro w p e
  have hmade : triesMade w.replies (max 1 5 : Int).toNat = 3 := by rfl
  obtain ⟨request, delays, -, hacts, -, hend, -, -⟩ := complete_of_usable w .openai none
    ["code-review"] 60 5 "1: x" (by decide +kernel) (by decide +kernel)
    (fun _ => ⟨zero_le_one, le_refl 1⟩)
  rw [hmade] at hend
  obtain ⟨hlength, houtcome⟩ := hend (by decide)
  have htwo : delays.length = 2 := by omega
  rw [htwo] at houtcome
  use request, delays, hacts, htwo
  rw [show e.outcome = _ from houtcome]
  decide +kernel

/-- After more than a thousand tries in vain the delay is beyond reckoning: the request is not
made as often as is allowed, and there is no word of the service. -/
theorem complete_of_many_tries :
  let w : World := { environment := [("OPENAI_API_KEY", "key")] }
  let p := Provider.of .openai none [] 60 1026
  let e := p.complete w "1: x"
  (∃ request, p.request w "1: x" = .ok request) ∧ (∀ i, 0 ≤ w.jitter i ∧ w.jitter i ≤ 1)
    ∧ triesMade w.replies 1026 = 1026 ∧ e.requests.length = 1025
    ∧ e.outcome ≠ (replyAt w.replies 1025).outcome .openai
  := by
  intro w p e
  have hkey : trimmed ((w.environmentValue p.service.keyVariable).getD "") ≠ "" := by
    decide +kernel
  obtain ⟨request, hrequest⟩ := exists_request w p hkey nofun "1: x"
  obtain ⟨hacts, houtcome⟩ := complete_of_request hrequest
  have hall : ((0 : Nat) : Int) + (1026 : Nat) = p.tries := rfl
  have hcount : triesMade w.replies 1026 = 1026 := rfl
  obtain ⟨hsent, hcomes⟩ := exchangeFrom_eq w.jitter .openai request 1026 0 (by decide) hall
    (Nat.zero_le _) w.replies hcount
  have hrequests : e.requests.length = 1025 := by
    rw [Exchange.requests, hacts.trans hsent, requests_turns, List.length_replicate,
      length_delaysFrom]
    rfl
  refine ⟨⟨request, hrequest⟩, fun _ => ⟨zero_le_one, le_refl 1⟩, rfl, hrequests, ?_⟩
  rw [houtcome.trans hcomes, if_neg (by decide)]
  decide +kernel

end SourceAudit
