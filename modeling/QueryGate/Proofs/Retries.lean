import QueryGate.Model.Query
import QueryGate.Proofs.Sessions

/-!
How often a model is called. Another call follows a reply whose fault has a label that promises
better luck, as long as calls are left. No label does, so that the first reply is the last one
whatever it says.
-/

namespace QueryGate

namespace World

variable {w : World} {c : Model.Call}

/-- The reply to a call that is made after `i` others. -/
def reply (w : World) (i : Nat) : Model.Reply := w.replies (w.calls.length + i)

end World

namespace Model

/-! ### When calls end -/

end Model

end QueryGate
