import QueryGate.Settings
import QueryGate.Toml.Parser

/-!
Reading settings from files: one in the home directory, and over it one in the directory where the
program is started.
-/

namespace QueryGate.Settings

def malformed : Fault := .settings "not a settings file"

/-- The settings of a single text over the standard ones. -/
def ofText (text : String) : Except Fault Settings :=
  match (Toml.parse? text).bind ofTable? with
  | some s => .ok s
  | none => .error malformed

def unwritable : Fault := .reported .badRequest "Invalid config: a number of more than 64 bits"

/-- Lays a table over the table of all settings, and reads what comes of it. -/
def mergeTable (s : Settings) (t : Toml.Table) : Except Fault Settings :=
  if !Toml.areEntriesPlain s.toTable then .error unwritable
  else match ofTable? (Toml.merge s.toTable t) with
    | some s => .ok s
    | none => .error malformed

/-- Lays the table of a text over settings; its integers must be of 64 bits. -/
def overlayText (s : Settings) (text : String) : Except Fault Settings :=
  match Toml.parse? text with
  | none => .error malformed
  | some t => if Toml.areEntriesPlain t then s.mergeTable t else .error malformed

/-- Lays a file over settings, when there is such a file. -/
def overlayFile (s : Settings) (p : Path) : Action Settings := do
  match ← Action.ask (.read p) with
  | .ok text => liftExcept (s.overlayText text)
  | .error .notFound | .error .notDirectory => return s
  | .error cause => throw (.settingsUnreadable cause)

def homeFile (home : String) : Path :=
  (Path.ofText home).descend [".config", "schema-guard", "config.toml"]

def localFile : Path := .ofText ".schema-guard.toml"

/-- The settings of both files and the environment. -/
def load (e : Environment) : Action Settings := do
  let s ← match e "HOME" with
    | some home => overlayFile {} (homeFile home)
    | none => pure {}
  return (← s.overlayFile localFile).inEnvironment e

end QueryGate.Settings
