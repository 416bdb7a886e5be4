import QueryGate.Address
import QueryGate.Json.Parser
import QueryGate.Json.Printer
import QueryGate.Model
import QueryGate.Model.Status

/-!
What is sent to a model, and what its reply says. A reply that is not a success is a fault, and so
is one that does not hold an answer.
-/

namespace QueryGate

/-- How freely a model answers. -/
structure Sampling where
  temperature : Binary
  topP : Binary
  deriving DecidableEq, Repr

/-- One message to a model. -/
structure Model.Call where
  address : String
  headers : List (String × String)
  body : Json
  deriving Repr

/-- What comes back after a call. -/
inductive Model.Reply
  | refused
  | overdue
  | response (status : Nat) (body : String)
  deriving DecidableEq, Repr

namespace Model

def message (role content : String) : Json :=
  .object [("role", .string role), ("content", .string content)]

/-- An address with a path after it, once it is known to be one that can be called. -/
def callable (address : String) : Except Fault String :=
  match Address.ofText? address with
  | none => .error (.modelAddress none)
  | some a =>
    if a.host?.isSome && (a.scheme = "http" || a.scheme = "https") then .ok address
    else .error (.modelAddress (some a.text))

/-- A base address without the slashes at its end. -/
def withoutSlashes (address : String) : String :=
  String.ofList (address.toList.reverse.dropWhile (· = '/')).reverse

/-- The message that asks a model for one answer to a user under some rules. -/
def call (m : Model) (s : Sampling) (rules user : String) : Except Fault Call :=
  let temperature := Json.ofSingle s.temperature
  let topP := Json.ofSingle s.topP
  match m with
  | .openAi key name =>
    .ok ⟨"https://api.openai.com/v1/chat/completions", [("Authorization", "Bearer " ++ key)],
      .object
        [("model", .string name), ("temperature", temperature), ("top_p", topP),
          ("messages", .array [message "system" rules, message "user" user])]⟩
  | .anthropic key name =>
    .ok ⟨"https://api.anthropic.com/v1/messages",
      [("x-api-key", key), ("anthropic-version", "2023-06-01")],
      .object
        [("model", .string name), ("max_tokens", .nat 4096), ("temperature", temperature),
          ("system", .string rules), ("messages", .array [message "user" user])]⟩
  | .ollama address name => do
    let address ← callable (withoutSlashes address ++ "/api/generate")
    return ⟨address, [],
      .object
        [("model", .string name), ("system", .string rules), ("prompt", .string user),
          ("stream", .bool false),
          ("options", .object [("temperature", temperature), ("top_p", topP)])]⟩

/-- The first item of a list under the only field of a document. -/
def first? (field : String) (j : Json) : Option (Option Json) :=
  match j.onlyField? field with
  | some (.array items) => some items.head?
  | _ => none

def openAiAnswer (j : Json) : Except Fault String :=
  match first? "choices" j with
  | none => .error .modelUndecodable
  | some none => .error (.modelSilent "OpenAI")
  | some (some choice) =>
    match choice.onlyField? "message" with
    | some m =>
      match m.member? "content" with
      | some (.string s) => .ok s
      | none | some .null => .error (.modelSilent "OpenAI")
      | some _ => .error .modelUndecodable
    | none => .error .modelUndecodable

def anthropicAnswer (j : Json) : Except Fault String :=
  match first? "content" j with
  | none => .error .modelUndecodable
  | some none => .error (.modelSilent "Anthropic")
  | some (some part) =>
    match part.member? "text" with
    | some (.string s) => .ok s
    | none => .ok ""
    | some _ => .error .modelUndecodable

def ollamaAnswer (j : Json) : Except Fault String :=
  match j.onlyField? "response" with
  | some (.string s) => .ok s
  | _ => .error .modelUndecodable

/-- The answer that the document of a successful reply holds. -/
def answerOfJson (m : Model) (j : Json) : Except Fault String :=
  match m.provider with
  | .openAi => openAiAnswer j
  | .anthropic => anthropicAnswer j
  | .ollama => ollamaAnswer j

/-- What a reply says: an answer or a fault. -/
def answer (m : Model) : Reply → Except Fault String
  | .refused => .error .modelUnreachable
  | .overdue => .error .modelOverdue
  | .response status body =>
    if !isSuccess status then
      .error (.modelRefused m.provider.title (statusText status) body)
    else match Json.parse? body with
      | some j => answerOfJson m j
      | none => .error .modelUndecodable

end Model

end QueryGate
