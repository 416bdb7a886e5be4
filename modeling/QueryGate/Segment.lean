import QueryGate.Fault
import QueryGate.Text.Blank

/-!
Names that are one step of a path. Such a name never leaves its directory and never stands for
another name.
-/

namespace QueryGate

namespace Segment

def isBlank (text : String) : Bool := Text.isBlankText text

/-- Whether a name would be read as a path of its own. -/
def isPath (text : String) : Bool :=
  text = "." || text = ".." || text.toList.any fun c => c = '/' || c = '\\' || c = '\x00'

def isUsable (text : String) : Bool := !isBlank text && !isPath text

end Segment

structure Segment where
  text : String
  usable : Segment.isUsable text = true
  deriving DecidableEq, Repr

namespace Segment

/-- A name that is called `what` when it is refused. -/
def ofText (what text : String) : Except Fault Segment :=
  if h : isUsable text = true then .ok ⟨text, h⟩
  else if isBlank text then .error (.emptyName what)
  else .error (.invalidName what text)

end Segment

end QueryGate
