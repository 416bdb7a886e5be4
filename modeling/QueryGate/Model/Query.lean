import QueryGate.Completion
import QueryGate.Session
import QueryGate.Text.Case

/-!
Asking a model for a statement. A fault that looks passing is followed by another call, as long as
any are left.
-/

namespace QueryGate

/-- Words in what a user is told of a fault that promise better luck next time. -/
def Fault.passingWords : List String :=
  ["timeout", "connection", "429", "rate limit", "500", "502", "503", "504"]

/-- Whether the public label of a fault names a cause that may pass; its details do not count. -/
def Fault.isPassing (f : Fault) : Bool :=
  passingWords.any fun word => Text.contains word (Text.lower f.kind.label)

def Sampling.standard : Sampling :=
  ⟨Binary.ofDecimal Binary.single false 1 (-1), Binary.ofDecimal Binary.single false 9 (-1)⟩

namespace Model

/-- Calls a model, and again after a passing fault at most `retries` times. -/
def answerTo (m : Model) (c : Call) : (retries : Nat) → Action String
  | 0 => do liftExcept (m.answer (← Action.ask (.post c)))
  | n + 1 => do
    match m.answer (← Action.ask (.post c)) with
    | .ok text => return text
    | .error f => if f.isPassing then m.answerTo c n else throw f

/-- The statement that a model writes for a user. -/
def statement (m : Model) (s : Sampling) (retries : Nat) (rules user : String) : Action String := do
  let text := Completion.statement (← m.answerTo (← liftExcept (m.call s rules user)) retries)
  if text.isEmpty then throw .modelEmpty else return text

end Model

end QueryGate
