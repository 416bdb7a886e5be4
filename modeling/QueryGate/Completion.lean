import QueryGate.Text.Blank

/-!
The statement in what a model answers. A fence around the whole answer is taken off, with the name
of a language that follows its opening.
-/

namespace QueryGate.Completion

/-- The mark that opens and closes a fence. -/
def fence : List Char := "```".toList

/-- Characters that the name of a language is made of. -/
def isTag (c : Char) : Bool := c.isAlphanum || c = '_' || c = '-'

/-- Whether a trimmed text opens and closes a fence, with two different marks. -/
def isFenced (cs : List Char) : Bool :=
  2 * fence.length ≤ cs.length && fence.isPrefixOf cs && fence.isSuffixOf cs

/-- What stands between the first and the last mark. -/
def inner (cs : List Char) : List Char :=
  (cs.drop fence.length).take (cs.length - 2 * fence.length)

def unfence (cs : List Char) : List Char :=
  let t := Text.trimChars cs
  if isFenced t then Text.trimChars ((inner t).dropWhile isTag) else t

def statement (answer : String) : String := String.ofList (unfence answer.toList)

end QueryGate.Completion
