import QueryGate.Fault
import QueryGate.Text.Blank
import QueryGate.Text.Case

/-!
Models that write statements, and who provides them. Two providers want a key; the third runs at an
address of the user's own.
-/

namespace QueryGate

inductive Provider
  | openAi
  | anthropic
  | ollama
  deriving DecidableEq, Repr

namespace Provider

/-- The name that a provider is chosen by. -/
def key : Provider → String
  | .openAi => "openai"
  | .anthropic => "anthropic"
  | .ollama => "ollama"

def title : Provider → String
  | .openAi => "OpenAI"
  | .anthropic => "Anthropic"
  | .ollama => "Ollama"

/-- The model that is asked when none is named. -/
def standardModel : Provider → String
  | .openAi => "gpt-4o-mini"
  | .anthropic => "claude-sonnet-4-20250514"
  | .ollama => "llama3.2"

def all : List Provider := [.openAi, .anthropic, .ollama]

/-- The provider of a name, whatever the case of its letters. -/
def ofName (name : String) : Except Fault Provider :=
  match all.find? fun p => Text.eqIgnoringAsciiCase p.key (Text.trim name) with
  | some p => .ok p
  | none => .error (.unknownProvider name)

/-- The provider that is asked for, else the one that is set, else the first. -/
def choose (asked? : Option Provider) (set? : Option String) : Except Fault Provider :=
  match asked?, set? with
  | some p, _ => .ok p
  | none, some name => ofName name
  | none, none => .ok .openAi

end Provider

/-- A model with what is needed to reach it. -/
inductive Model
  | openAi (key name : String)
  | anthropic (key name : String)
  | ollama (address name : String)
  deriving DecidableEq, Repr

namespace Model

/-- Where a model of the user's own is expected when no address is set. -/
def standardAddress : String := "http://localhost:11434"

def provider : Model → Provider
  | .openAi .. => .openAi
  | .anthropic .. => .anthropic
  | .ollama .. => .ollama

/-- The model of a provider; the standard one when no name is given. -/
def ofProvider (p : Provider) (key? name? : Option String) (address : String) :
    Except Fault Model :=
  let name := name?.getD p.standardModel
  match p, key? with
  | .ollama, _ => .ok (.ollama address name)
  | .openAi, some key => .ok (.openAi key name)
  | .anthropic, some key => .ok (.anthropic key name)
  | p, none => .error (.keyRequired p.title)

end Model

end QueryGate
