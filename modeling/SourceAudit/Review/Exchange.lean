import SourceAudit.Review.Provider
import SourceAudit.Value.JsonReader

/-!
# Exchanges with a service

A request is made again, after a delay, when the service is overburdened, at fault, or
not reached in time. The delays double up to a bound, and a jitter decides how much of
the upper half of each is waited. Any other reply ends the exchange.
-/

namespace SourceAudit

open Text

/-! ### Delays -/

/-- The longest that is waited after a try, in seconds; tries are counted from zero. -/
def longestDelay (attempt : Nat) : Rat :=
  let doubled : Rat := 2 ^ attempt / 2
  if doubled ≤ 8 then doubled else 8

/-- How long is waited after a try, given the share of the upper half. -/
def delay (share : Rat) (attempt : Nat) : Rat :=
  longestDelay attempt / 2 + share * (longestDelay attempt / 2)

/-- The first try after which no delay can be reckoned in double precision. -/
def firstUnreckonedTry : Nat := 1024

/-! ### Replies -/

/-- Whether a request is made again after a status. -/
def isPassing (status : Int) : Bool :=
  status = 429 || (500 ≤ status && status < 600)

/-- Whether a request is made again after a reply. -/
def Reply.isPassing : Reply → Bool
  | .answer status _ => status ≠ 200 && SourceAudit.isPassing status
  | .unreachable _ => true
  | .timeout _ => true

/-- What is logged before a request is made again. -/
def Reply.retryMessage : Reply → String
  | .answer status _ => "review request failed with HTTP " ++ intText status ++ ", retrying"
  | .unreachable reason => "review request failed (" ++ reason ++ "), retrying"
  | .timeout reason => "review request failed (" ++ reason ++ "), retrying"

/-- Reads the body of a reply. -/
def readBody (body : Octets) : Except Json.Fault Value :=
  match decodeStrict body with
  | .ok text => Json.read text
  | .error _ => .error .malformed

/-- The words of a service in the reply that refuses a request. -/
def refusalWords (v : Value) : String :=
  (((v.get? "error").bind (·.get? "message")).bind Value.text?).getD "Unknown error"

/-- What a reply that refuses a request comes to. -/
def refusal (status : Int) (body : Octets) : ReviewFault :=
  match readBody body with
  | .ok v => .refused (refusalWords v)
  | .error .tooDeep => .tooDeep
  | .error _ => .refused ("HTTP " ++ intText status)

/-- The text of a block of text. -/
def blockText? (block : Value) : Option String :=
  if (block.get? "type").bind Value.text? = some "text" then (block.get? "text").bind Value.text?
  else none

/-- The review in a reply, as the service writes it. -/
def reviewText? (service : ReviewService) (v : Value) : Option String :=
  match service with
  | .openai => do
    let first ← (← (← v.get? "choices").list?).head?
    ((← first.get? "message").get? "content").bind Value.text?
  | .claude =>
    match (v.get? "content").bind Value.list? with
    | some (block :: blocks) => some (joinWith "\n" ((block :: blocks).filterMap blockText?))
    | _ => none

/-- What the last reply of an exchange comes to. -/
def Reply.outcome (service : ReviewService) : Reply → Except ReviewFault String
  | .unreachable reason => .error (.unreachable reason)
  | .timeout reason => .error (.unreachable reason)
  | .answer status body =>
    if status ≠ 200 then .error (refusal status body)
    else
      match readBody body with
      | .error .malformed => .error .notJson
      | .error .tooManyDigits => .error .tooManyDigits
      | .error .tooDeep => .error .tooDeep
      | .ok v =>
        match reviewText? service v with
        | some text => .ok text
        | none => .error (.unexpectedFormat service)

/-! ### Exchanges -/

/-- A step of an exchange: a request is sent, or some seconds are let pass. -/
inductive Act where
  | send (request : Request)
  | wait (seconds : Rat)
  deriving DecidableEq, Repr

def Act.request? : Act → Option Request
  | .send request => some request
  | .wait _ => none

def Act.seconds? : Act → Option Rat
  | .send _ => none
  | .wait seconds => some seconds

/-- What passes between a run and a service, and what comes of it. -/
structure Exchange (α : Type) where
  acts : List Act := []
  log : Log := []
  outcome : Except ReviewFault α

/-- The requests that are sent. -/
def Exchange.requests {α : Type} (e : Exchange α) : List Request :=
  e.acts.filterMap Act.request?

/-- The delays that are waited. -/
def Exchange.delays {α : Type} (e : Exchange α) : List Rat :=
  e.acts.filterMap Act.seconds?

/-- The exchange in which nothing is sent. -/
def Exchange.silent {α : Type} (outcome : Except ReviewFault α) : Exchange α :=
  { outcome }

/-- The exchange after some log records. -/
def Exchange.after {α : Type} (log : Log) (e : Exchange α) : Exchange α :=
  { e with log := log ++ e.log }

/-- The exchange with its outcome changed. -/
def Exchange.map {α β : Type} (f : α → β) (e : Exchange α) : Exchange β :=
  { e with outcome := e.outcome.map f }

/-- The log source of exchanges. -/
private def exchangeSource : String := "avesta.review.providers"

/-- The reply when no more are given. -/
def missingReply : Reply :=
  .answer 500 []

/-- Makes a request in the tries that are left of some tries, the first of them being the one
given; the last of all is the end of the exchange, whatever its reply. -/
def exchangeFrom (jitter : Nat → Rat) (service : ReviewService) (request : Request)
    (tries : Int) : Nat → Nat → List Reply → Exchange String
  | 0, _, _ => .silent (.error .noTry)
  | left + 1, attempt, replies =>
    let reply := replies.head?.getD missingReply
    if reply.isPassing && attempt < tries - 1 then
      let record : LogRecord := ⟨.debug, exchangeSource, reply.retryMessage⟩
      if firstUnreckonedTry ≤ attempt then
        { acts := [.send request], log := [record], outcome := .error .delayOverflow }
      else
        let later := exchangeFrom jitter service request tries left (attempt + 1) replies.tail
        { acts := .send request :: .wait (delay (jitter attempt) attempt) :: later.acts
          log := record :: later.log
          outcome := later.outcome }
    else { acts := [.send request], outcome := reply.outcome service }

/-- Asks a provider about a prompt. -/
def Provider.complete (w : World) (p : Provider) (prompt : String) : Exchange String :=
  match p.request w prompt with
  | .error fault => .silent (.error fault)
  | .ok request =>
    let record : LogRecord :=
      ⟨.debug, exchangeSource,
        "review request: " ++ request.url ++ " (" ++ p.model ++ ", "
          ++ natText request.body.utf8ByteSize ++ " bytes)"⟩
    (exchangeFrom w.jitter p.service request p.tries p.tries.toNat 0 w.replies).after [record]

/-! ### Reviews -/

/-- The log source of reviews. -/
private def reviewSource : String := "avesta.review.service"

/-- Asks for a review of the changes that are staged in the repository of a directory;
`none` when there are none to be reviewed. -/
def reviewStaged (w : World) (directory : Path) (settings : ReviewSettings) (p : Provider) :
    Exchange (Option String) :=
  match gitTop? w directory with
  | none => .silent (.error (.noRepository directory.toText))
  | some root =>
    match runGit w stagedArguments root with
    | .error fault => .silent (.error (.unknownChanges fault))
    | .ok diff =>
      match stagedChanges root settings.extensions diff with
      | .error .tooManyDigits => .silent (.error .tooManyDigits)
      | .ok [] =>
        let record : LogRecord :=
          ⟨.debug, reviewSource,
            "no staged files matching " ++ joinWith ", " settings.extensions ++ " found."⟩
        (Exchange.silent (.ok none)).after [record]
      | .ok changes =>
        let record : LogRecord :=
          ⟨.info, reviewSource,
            "AI reviewing changes in " ++ natText changes.length ++ " file(s)..."⟩
        match changesPrompt? (some root) changes with
        | none => (Exchange.silent (.error .tooManyDigits)).after [record]
        | some prompt => ((p.complete w prompt).map some).after [record]

/-- What `reviewStaged` asks of the version control program. -/
def stagedQuestions (w : World) (directory : Path) : List (List String) :=
  match gitTop? w directory with
  | none => [topArguments]
  | some _ => [topArguments, stagedArguments]

/-- Asks for a review of a file. -/
def reviewFile (w : World) (file : Path) (p : Provider) : Exchange String :=
  match w.disk.read file with
  | .error fault => .silent (.error (.missingFile file fault))
  | .ok octets =>
    match decodeStrict octets with
    | .error fault => .silent (.error (.undecodable fault))
    | .ok text =>
      let record : LogRecord := ⟨.info, reviewSource, "AI reviewing " ++ file.toText ++ "..."⟩
      (p.complete w (textPrompt (String.ofList (unifyBreaks text)))).after [record]

end SourceAudit
