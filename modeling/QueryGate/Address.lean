import QueryGate.Text.Case
import QueryGate.Text.Search

/-!
Addresses on the network: a scheme and, for most schemes, a host that may be followed by the number
of a service. White space around an address and line breaks inside it do not count.
-/

namespace QueryGate

structure Address where
  scheme : String
  host? : Option String
  /-- The address as it is shown. -/
  text : String
  deriving DecidableEq, Repr

namespace Address

/-- Schemes that always have a host. -/
def hostSchemes : List String := ["http", "https", "ws", "wss", "ftp"]

/-- Characters that end the host of an address. -/
def hostEnds : List Char := ['/', '?', '#']

def isEdge (c : Char) : Bool := c.toNat ≤ 0x20

def clean (cs : List Char) : List Char :=
  let cs := cs.dropWhile isEdge
  let cs := (cs.reverse.dropWhile isEdge).reverse
  cs.filter fun c => c ≠ '\t' && c ≠ '\n' && c ≠ '\r'

/-- The scheme, in lower case, and what follows its colon. -/
def scheme? (cs : List Char) : Option (String × List Char) :=
  let name := cs.takeWhile fun c => c.isAlphanum || c = '+' || c = '-' || c = '.'
  match name.head?, cs.drop name.length with
  | some c, ':' :: rest =>
    if c.isAlpha then some (Text.lowerAscii (String.ofList name), rest) else none
  | _, _ => none

/-- Characters that no name of a host holds. -/
def isForbidden (c : Char) : Bool :=
  c.toNat ≤ 0x20 || c.toNat = 0x7f || "#/:<>?@[\\]^|%".toList.contains c

def numberBelow? (limit : Nat) (cs : List Char) : Bool :=
  cs.all Char.isDigit && cs.foldl (fun n c => 10 * n + (c.toNat - '0'.toNat)) 0 < limit

/-- A host whose last label is a number has to be four numbers below 256. -/
def isNumericOrNamed (host : List Char) : Bool :=
  let labels := Text.splitAt '.' host
  let labels := if labels.getLast? = some [] then labels.dropLast else labels
  match labels.getLast? with
  | none => true
  | some last =>
    if last.isEmpty || !last.all Char.isDigit then true
    else labels.length = 4 && labels.all fun l => !l.isEmpty && numberBelow? 256 l

def isHost (cs : List Char) : Bool := !cs.any isForbidden && isNumericOrNamed cs

def isBracketed (c : Char) : Bool :=
  c.isDigit || c = ':' || c = '.' || ('a' ≤ c.toLower && c.toLower ≤ 'f')

/-- The host of an authority; the inner value is missing when the host is empty. -/
def hostOf? (authority : List Char) : Option (Option String) :=
  let named := (authority.reverse.takeWhile (· ≠ '@')).reverse
  let hasUser := named.length < authority.length
  match named with
  | '[' :: rest =>
    let inside := rest.takeWhile (· ≠ ']')
    match rest.drop inside.length with
    | [']'] => if inside.all isBracketed then some (some (String.ofList inside)) else none
    | ']' :: ':' :: service =>
      if inside.all isBracketed && numberBelow? 65536 service then
        some (some (String.ofList inside))
      else none
    | _ => none
  | _ =>
    let host := named.takeWhile (· ≠ ':')
    let service := (named.drop host.length).drop 1
    if !isHost host || !numberBelow? 65536 service then none
    else if host.isEmpty then if hasUser || !service.isEmpty then none else some none
    else some (some (String.ofList host))

def ofText? (text : String) : Option Address := do
  let (scheme, rest) ← scheme? (clean text.toList)
  let shown := scheme ++ ":" ++ String.ofList rest
  if hostSchemes.contains scheme then
    let rest := rest.dropWhile fun c => c = '/' || c = '\\'
    let authority := rest.takeWhile fun c => !hostEnds.contains c && c ≠ '\\'
    match ← hostOf? authority with
    | some host => return ⟨scheme, some host, shown⟩
    | none => none
  else match rest with
    | '/' :: '/' :: rest =>
      let authority := rest.takeWhile fun c => !hostEnds.contains c
      return ⟨scheme, ← hostOf? authority, shown⟩
    | _ => return ⟨scheme, none, shown⟩

end Address

end QueryGate
