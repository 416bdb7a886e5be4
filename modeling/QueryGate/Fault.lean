import QueryGate.Json.Decode
import QueryGate.Text.Search

/-!
What can go wrong, as causes. Each cause belongs to a kind and has one wording.
-/

namespace QueryGate

/-- Why a file could not be read or written. -/
inductive FileCause
  | notFound
  | exists
  | notDirectory
  | isDirectory
  | notText
  | other (text : String)
  deriving DecidableEq, Repr

def FileCause.message : FileCause → String
  | .notFound => "No such file or directory (os error 2)"
  | .exists => "File exists (os error 17)"
  | .notDirectory => "Not a directory (os error 20)"
  | .isDirectory => "Is a directory (os error 21)"
  | .notText => "stream did not contain valid UTF-8"
  | .other text => text

inductive Fault.Kind
  | badRequest
  | notFound
  | unauthorized
  | forbidden
  | internal
  | service
  deriving DecidableEq, Repr

/-- What a user is told of a fault whose details stay inside. -/
def Fault.Kind.label : Fault.Kind → String
  | .badRequest => "Bad request"
  | .notFound => "Not found"
  | .unauthorized => "Unauthorized"
  | .forbidden => "Forbidden"
  | .internal => "Internal server error"
  | .service => "Service error"

inductive Fault
  /-- A fault that is reported in words of its own. -/
  | reported (kind : Fault.Kind) (text : String)
  | emptySql
  | invalidKeyword (keyword : String)
  | noKeywords
  | emptyName (what : String)
  | invalidName (what name : String)
  | ddl (detail : String)
  | emptyPayload
  | payloadNotJson
  | payloadWithoutTables
  | tables (mismatch : Mismatch)
  | notSnapshot
  | snapshotMissing (name : String)
  | unreadable (path : String) (cause : FileCause)
  | unwritable (path : String) (cause : FileCause)
  | noCredential
  | badToken
  | noOwner
  | readsUserData
  | noDatabase
  | databaseAddress
  | databaseUnreachable
  | emptyRequest
  | keyRequired (provider : String)
  | unknownProvider (name : String)
  | settingsUnreadable (cause : FileCause)
  | settings (detail : String)
  | modelRefused (provider : String) (status : String) (body : String)
  | modelUnreachable
  | modelOverdue
  | modelAddress (address? : Option String)
  | modelUndecodable
  | modelSilent (provider : String)
  | modelEmpty
  deriving Repr

namespace Fault

def kind : Fault → Kind
  | .reported kind _ => kind
  | .snapshotMissing _ => .notFound
  | .unreadable .. | .unwritable .. => .internal
  | .noCredential | .badToken | .noOwner => .unauthorized
  | .readsUserData => .forbidden
  | .databaseAddress | .databaseUnreachable => .service
  | .modelRefused .. | .modelUnreachable | .modelOverdue | .modelAddress _ | .modelUndecodable
  | .modelSilent _ | .modelEmpty => .service
  | _ => .badRequest

/-- The number that digits stand for, with at most one plus sign before them, when a machine word
holds it. -/
def wordNumber? (cs : List Char) : Option Nat :=
  let ds := match cs with
    | '+' :: ds => ds
    | ds => ds
  let n := Numeral.digitsValue ds
  if ds.isEmpty || !ds.all Char.isDigit || UInt64.size ≤ n then none else some n

/-- The line and column that a message about SQL names. -/
def position? (detail : String) : Option (Nat × Nat) := do
  let (_, rest) ← Text.cut? "Line: ".toList detail.toList
  let (line, rest) ← Text.cut? ", Column ".toList rest
  return (← wordNumber? line, ← wordNumber? (rest.takeWhile Char.isDigit))

/-- The place comes first when it is known, and the details have a line of their own. -/
def ddlMessage (detail : String) : String :=
  match position? detail with
  | some (line, column) =>
    "Schema parse error at line " ++ toString line ++ ", column " ++ toString column ++ ":\n  " ++
      detail
  | none => "Schema parse error:\n  " ++ detail

def catalogCode : String := "ROLE_NOT_CATALOG_ONLY"

def message : Fault → String
  | .reported _ text => text
  | .emptySql => "SQL text is empty"
  | .invalidKeyword keyword => "Invalid dangerous keyword '" ++ keyword ++ "'"
  | .noKeywords => "Dangerous keyword list must not be empty"
  | .emptyName what => "The " ++ what ++ " must not be empty"
  | .invalidName what name => "Invalid " ++ what ++ ": '" ++ name ++ "'"
  | .ddl detail => ddlMessage detail
  | .emptyPayload => "Schema payload is empty"
  | .payloadNotJson => "Invalid schema JSON: not a document"
  | .payloadWithoutTables => "Schema payload must be an object with a 'tables' mapping"
  | .tables mismatch => "Invalid table definitions: " ++ mismatch.message
  | .notSnapshot => "Invalid snapshot file: not a snapshot"
  | .snapshotMissing name => "Schema snapshot '" ++ name ++ "' not found"
  | .unreadable path cause => "Failed to read file '" ++ path ++ "': " ++ cause.message
  | .unwritable path cause => "Failed to write file '" ++ path ++ "': " ++ cause.message
  | .noCredential => "unauthorized"
  | .badToken => "invalid_jwt"
  | .noOwner => "An owner is required (use --owner or --token)"
  | .readsUserData =>
    catalogCode ++ ": the connected role can read user data; use a role without SELECT on user " ++
      "tables (catalog-only)"
  | .noDatabase => "A database URL is required"
  | .databaseAddress => "Database error: not an address"
  | .databaseUnreachable => "Database connection failed: no answer"
  | .emptyRequest => "A natural-language request is required"
  | .keyRequired provider =>
    "API key required for " ++ provider ++ " (use --api-key or LLM_API_KEY)"
  | .unknownProvider name => "Unknown LLM provider '" ++ name ++ "'"
  | .settingsUnreadable cause => "Failed to read config file: " ++ cause.message
  | .settings detail => "Invalid config file: " ++ detail
  | .modelRefused provider status body => provider ++ " API error " ++ status ++ ": " ++ body
  | .modelUnreachable => "Connection failed: no answer"
  | .modelOverdue => "Request timeout: no answer in time"
  | .modelAddress none => "builder error"
  | .modelAddress (some address) => "builder error for url (" ++ address ++ ")"
  | .modelUndecodable => "error decoding response body"
  | .modelSilent provider => "Empty response from " ++ provider
  | .modelEmpty => "Model returned empty SQL"

end Fault

end QueryGate
