import QueryGate.Base64Url
import QueryGate.Json.Decode
import QueryGate.Json.Parser
import QueryGate.Segment
import QueryGate.Text.Case
import QueryGate.Utf8

/-!
Who snapshots belong to. An owner is named directly or by the subject of a token; the signature of
the token is not looked at.
-/

namespace QueryGate

abbrev Owner := Segment

namespace Owner

def ofId (id : String) : Except Fault Owner := Segment.ofText "owner id" id

/-- The subject that claims name. -/
def subject? (claims : Json) : Option String :=
  match claims.onlyField? "sub" with
  | some (.string s) => some s
  | _ => none

/-- What stands for a byte that spells no character. It spoils the string that it stands in: it has
half of a surrogate pair, and a letter on each side, so that nothing escapes it or completes it. -/
def noText : List Char := "x\\ud800x".toList

/-- The document that some bytes spell. -/
def claimsOf? (bytes : List UInt8) : Option Json := Json.parseChars? (Utf8.text noText bytes)

/-- The claims in the middle part of a token, whose padding does not count. -/
def claims? (payload : List Char) : Option Json :=
  (Base64Url.decode? (payload.reverse.dropWhile (· = '=')).reverse).bind claimsOf?

/-- The middle part of a token of three parts. -/
def payload? (token : List Char) : Option (List Char) :=
  match Text.splitAt '.' token with
  | [_, payload, _] => some payload
  | _ => none

/-- The owner that a token of three parts names. -/
def ofToken (token : String) : Except Fault Owner :=
  match ((payload? (Text.trimChars token.toList)).bind claims?).bind subject? with
  | some s => if s.isEmpty then .error .badToken else (ofId s).mapError fun _ => .badToken
  | none => .error .badToken

/-- How a credential says that a token follows. -/
def scheme : String := "bearer "

/-- The owner of the token in a bearer credential. -/
def ofBearer (header : String) : Except Fault Owner :=
  match Text.cutBytes? scheme.utf8ByteSize (Text.trimChars header.toList) with
  | some (start, rest) =>
    let token := Text.trimChars rest
    if Text.eqIgnoringAsciiCase (String.ofList start) scheme && !token.isEmpty then
      ofToken (String.ofList token)
    else .error .noCredential
  | none => .error .noCredential

/-- Whether a text, in lower case, begins as a bearer credential does. -/
def isBearer (token : String) : Bool :=
  scheme.toList.isPrefixOf (Text.lowerAscii (Text.trim token)).toList

/-- The owner that is named, or else the owner of a token with or without its scheme. -/
def resolve (id? token? : Option String) : Except Fault Owner :=
  match id?, token? with
  | some id, _ => ofId id
  | none, some token => if isBearer token then ofBearer token else ofToken token
  | none, none => .error .noOwner

end Owner

end QueryGate
