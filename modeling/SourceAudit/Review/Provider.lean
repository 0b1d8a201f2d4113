import SourceAudit.Config.Basic
import SourceAudit.Git
import SourceAudit.Review.Prompt
import SourceAudit.Value.Json

/-!
# Review services

Two services review code. A provider is one of them with a model, the texts a project
has chosen, and limits of time and tries. Its key comes from the environment; without a
key, or with a chosen text that there is none of, no request is made.
-/

namespace SourceAudit

open Text

/-- The services that review. -/
inductive ReviewService where
  | openai
  | claude
  deriving DecidableEq, Repr

namespace ReviewService

/-- The name that log records give a service's provider. -/
def providerName : ReviewService → String
  | .openai => "OpenAIReviewProvider"
  | .claude => "ClaudeReviewProvider"

def title : ReviewService → String
  | .openai => "OpenAI"
  | .claude => "Claude"

def url : ReviewService → String
  | .openai => "https://api.openai.com/v1/chat/completions"
  | .claude => "https://api.anthropic.com/v1/messages"

/-- The model that is asked when none is named. -/
def defaultModel : ReviewService → String
  | .openai => "gpt-4-turbo-preview"
  | .claude => "claude-3-5-sonnet-20241022"

/-- The environment variable that holds a service's key. -/
def keyVariable : ReviewService → String
  | .openai => "OPENAI_API_KEY"
  | .claude => "AI_PROVIDER_API_KEY"

/-- The service that a model belongs to. -/
def ofModel (model : String) : ReviewService :=
  if startsWith "claude".toList model.toList then .claude else .openai

end ReviewService

/-- Why a review cannot be had. -/
inductive ReviewFault where
  | missingKey (variableName : String)
  | prompt (fault : PromptFault)
  /-- The service refused the request, in its words. -/
  | refused (words : String)
  /-- The service was not reached. -/
  | unreachable (reason : String)
  | notJson
  | unexpectedFormat (service : ReviewService)
  | noRepository (directory : String)
  | unknownChanges (fault : GitFault)
  | missingFile (path : Path) (fault : ReadFault)
  | undecodable (fault : OctetFault)
  /-- A number of a diff or of a reply has too many digits. -/
  | tooManyDigits
  /-- The values of a reply are nested too deep. -/
  | tooDeep
  /-- A delay is beyond reckoning. -/
  | delayOverflow
  /-- All tries are over, and none of them was the last. -/
  | noTry
  deriving DecidableEq, Repr

def ReviewFault.message : ReviewFault → String
  | .missingKey variableName => variableName ++ " environment variable is not set"
  | .prompt fault => fault.message
  | .refused words => "AI API error: " ++ words
  | .unreachable reason => "AI API request failed: " ++ reason
  | .notJson => "AI API returned invalid JSON"
  | .unexpectedFormat service => "Unexpected response format from " ++ service.title ++ " API"
  | .noRepository directory => "not a git repository: " ++ directory
  | .unknownChanges fault => "failed to read staged changes: " ++ fault.message
  | .missingFile path fault => "Failed to read file: " ++ fault.message path
  | .undecodable fault => "Failed to read file: " ++ fault.message
  | .tooManyDigits => "a number has too many digits"
  | .tooDeep => "values are nested too deep"
  | .delayOverflow => "a delay is too long"
  | .noTry => "unreachable"

/-- A service that is asked for reviews. -/
structure Provider where
  service : ReviewService
  model : String
  prompts : List String
  /-- How many seconds a reply may take. -/
  timeout : Int
  /-- How often a request is made at most. -/
  tries : Int
  deriving DecidableEq, Repr

/-- How often a request is made at most when nothing else is said. -/
def usualTries : Int := 3

/-- A provider that asks a service at most `tries` times, and at least once. An empty
model stands for the usual one. -/
def Provider.of (service : ReviewService) (model : Option String) (prompts : List String)
    (timeout tries : Int) : Provider :=
  { service
    model := match model with
      | some model => if model = "" then service.defaultModel else model
      | none => service.defaultModel
    prompts
    timeout
    tries := max 1 tries }

/-! ### Choosing a provider -/

/-- The first text that is not empty. -/
def firstWritten? : List (Option String) → Option String
  | [] => none
  | some s :: rest => if s = "" then firstWritten? rest else some s
  | none :: rest => firstWritten? rest

/-- The model that is asked: the one named, or else that of the settings, or else that
of the environment, or else the usual one. -/
def resolveModel (w : World) (settings : ReviewSettings) (model : Option String) : String :=
  (firstWritten? [model, settings.model,
    (w.environmentValue "AI_REVIEW_MODEL").map trimmed]).getD ReviewService.openai.defaultModel

/-- The provider that a model and the settings of a project call for. -/
def createProvider (w : World) (settings : ReviewSettings) (model : Option String) :
    Log × Provider :=
  let model := resolveModel w settings model
  let service := ReviewService.ofModel model
  let source := "avesta.review.providers"
  let keyName := ReviewService.claude.keyVariable
  let keyRecords : Log :=
    if (w.environmentValue keyName).getD "" = "" then
      [⟨.warning, source, keyName ++ " environment variable is not set"⟩]
    else []
  let choice : LogRecord :=
    ⟨.debug, source,
      "review provider: " ++ service.providerName ++ " (model " ++ model ++ ")"⟩
  (keyRecords ++ [choice],
    Provider.of service (some model) settings.prompts settings.timeout usualTries)

/-! ### Requests -/

/-- A request to a service. -/
structure Request where
  url : String
  headers : List (String × String)
  body : String
  timeout : Int
  deriving DecidableEq, Repr

namespace Provider

/-- The key that the environment holds for the service. -/
def key (w : World) (p : Provider) : Except ReviewFault String :=
  let key := trimmed ((w.environmentValue p.service.keyVariable).getD "")
  if key = "" then .error (.missingKey p.service.keyVariable) else .ok key

/-- The headers of a request, given a key. -/
def headers (p : Provider) (key : String) : List (String × String) :=
  ("content-type", "application/json") ::
    match p.service with
    | .openai => [("authorization", "Bearer " ++ key)]
    | .claude => [("x-api-key", key), ("anthropic-version", "2023-06-01")]

/-- A message from someone. -/
def message (role content : String) : Value :=
  .table [("role", .text role), ("content", .text content)]

/-- What is sent, given what the user asks. -/
def body (p : Provider) (question : String) : Value :=
  match p.service with
  | .openai => .table [
      ("model", .text p.model),
      ("messages", .list [message "system" systemPrompt, message "user" question]),
      ("temperature", .decimal (.finite false 5 (-1)))]
  | .claude => .table [
      ("model", .text p.model),
      ("system", .text systemPrompt),
      ("messages", .list [message "user" question]),
      ("temperature", .decimal (.finite false 1 (-1))),
      ("max_tokens", .int 4000)]

/-- The request that asks about a prompt. -/
def request (w : World) (p : Provider) (prompt : String) : Except ReviewFault Request := do
  let key ← p.key w
  let chosen ← (chosenPrompts p.prompts).mapError .prompt
  return {
    url := p.service.url
    headers := p.headers key
    body := Json.compact (p.body (chosen ++ "\n\n" ++ prompt))
    timeout := p.timeout }

end Provider

end SourceAudit
