import QueryGate.Text.Search

/-!
Reading the arguments of a program that has commands within commands. Values are checked as soon as
the next argument shows that they are complete; what was given is checked against the rules of a
command after all that follows it.
-/

namespace QueryGate

/-- Why arguments are not accepted, or what they ask to be shown instead of running. -/
inductive Usage
  | help
  | version
  | helpOnNothing
  | missingCommand
  | missingArgument
  | conflict
  | invalidValue
  | invalidNumber
  | invalidCommand
  | unknownArgument
  | needlessValue
  deriving DecidableEq, Repr

/-- Asking for help or for the version is no mistake. -/
def Usage.exitCode : Usage → Nat
  | .help | .version => 0
  | _ => 2

namespace Arguments

/-- What a value has to be. -/
inductive Kind
  | text
  | path
  | choice (names : List String)
  | number
  deriving DecidableEq, Repr

/-- A number that a machine word of half size holds, with or without a sign. -/
def number? (value : String) : Option Nat :=
  let (negative, ds) := match value.toList with
    | '-' :: ds => (true, ds)
    | '+' :: ds => (false, ds)
    | ds => (false, ds)
  let n := ds.foldl (fun n c => 10 * n + (c.toNat - '0'.toNat)) 0
  if ds.isEmpty || !ds.all Char.isDigit || UInt32.size ≤ n || (negative && n ≠ 0) then none
  else some n

def Kind.check (k : Kind) (value : String) : Except Usage Unit :=
  match k with
  | .text => .ok ()
  | .path => if value.isEmpty then .error .invalidValue else .ok ()
  | .choice names => if names.contains value then .ok () else .error .invalidValue
  | .number => if (number? value).isSome then .ok () else .error .invalidNumber

/-- What an argument does when it is met. -/
inductive Effect
  | take (k : Kind)
  | turnOn
  | count
  | showHelp
  | showVersion
  deriving DecidableEq, Repr

/-- An argument that is given by name, or by its place if it has no name. -/
structure Argument where
  key : String
  short? : Option Char
  long? : Option String
  effect : Effect
  variableName? : Option String
  isRequired : Bool
  deriving DecidableEq, Repr

def Argument.takesValue (a : Argument) : Bool :=
  match a.effect with
  | .take _ => true
  | _ => false

/-- Arguments of which at most one may be given, and one must be given if the group is required. -/
structure Group where
  keys : List String
  isRequired : Bool
  deriving DecidableEq, Repr

/-- A command with its arguments and the commands within it. Each `needs` is an argument that may
only be given with one of some others. -/
inductive Command
  | mk (name : String) (named placed : List Argument) (groups : List Group)
    (needs : List (String × List String)) (inner : List Command)

namespace Command

def name : Command → String
  | .mk name .. => name

def named : Command → List Argument
  | .mk _ named .. => named

def placed : Command → List Argument
  | .mk _ _ placed .. => placed

def groups : Command → List Group
  | .mk _ _ _ groups .. => groups

def needs : Command → List (String × List String)
  | .mk _ _ _ _ needs _ => needs

def inner : Command → List Command
  | .mk _ _ _ _ _ inner => inner

def find? (c : Command) (name : String) : Option Command := c.inner.find? (·.name = name)

/-- A command that has others within it also has one that shows help. -/
def hasInner (c : Command) (name : String) : Bool :=
  (c.find? name).isSome || (!c.inner.isEmpty && name = "help")

def long? (c : Command) (name : String) : Option Argument := c.named.find? (·.long? = some name)

def short? (c : Command) (letter : Char) : Option Argument :=
  c.named.find? (·.short? = some letter)

end Command

/-- The arguments of a command that were given, with their values, and the command within it. -/
inductive Given
  | mk (values : List (String × List String)) (inner? : Option (String × Given))

def Given.values : Given → List (String × List String)
  | .mk values _ => values

def Given.inner? : Given → Option (String × Given)
  | .mk _ inner? => inner?

def Given.has (g : Given) (key : String) : Bool := (g.values.lookup key).isSome

def Given.value? (g : Given) (key : String) : Option String := (g.values.lookup key).bind List.head?

/-- What has been read of the arguments of one command. -/
structure State where
  values : List (String × List String) := []
  /-- An argument that may still get a value, and those it has. -/
  pending? : Option (Argument × List String) := none
  /-- Whether the next argument is a value of the pending one. -/
  awaits : Bool := false
  /-- How many arguments were given by their place. -/
  places : Nat := 0
  /-- Whether names no longer count. -/
  plain : Bool := false

namespace State

/-- Enters an argument with its values. -/
def enter (s : State) (a : Argument) (values : List String) : Except Usage State := do
  match a.effect with
  | .showHelp => throw .help
  | .showVersion => throw .version
  | .count =>
    let n := ((s.values.lookup a.key).getD []).length
    return { s with values := (a.key, List.replicate (min 255 (n + 1)) "") ::
      s.values.filter (·.1 ≠ a.key) }
  | .turnOn =>
    if (s.values.lookup a.key).isSome then throw .conflict
    return { s with values := (a.key, []) :: s.values }
  | .take k =>
    if values.isEmpty then throw .invalidValue
    if (s.values.lookup a.key).isSome then throw .conflict
    for value in values do k.check value
    return { s with values := (a.key, values) :: s.values }

/-- Enters the pending argument. -/
def settle (s : State) : Except Usage State :=
  match s.pending? with
  | some (a, values) => { s with pending? := none }.enter a values
  | none => .ok s

/-- Meets an argument by its name, with the value that is attached to it. -/
def meet (s : State) (a : Argument) (attached? : Option String) : Except Usage State := do
  match a.takesValue, attached? with
  | true, none =>
    let s ← s.settle
    return { s with pending? := some (a, []), awaits := true }
  | false, some _ => throw .needlessValue
  | _, attached? =>
    let s ← s.settle
    return { ← s.enter a attached?.toList with awaits := false }

/-- Meets the letters after a single dash. -/
def meetLetters (c : Command) (s : State) : List Char → Except Usage State
  | [] => .ok s
  | letter :: rest =>
    match c.short? letter with
    | none => .error .unknownArgument
    | some a =>
      if a.takesValue then
        s.meet a <| match rest with
          | [] => none
          | '=' :: value => some (String.ofList value)
          | value => some (String.ofList value)
      else do meetLetters c (← s.meet a none) rest

/-- Meets an argument by its place. -/
def meetPlaced (c : Command) (s : State) (value : String) : Except Usage State := do
  match c.placed[s.places]? with
  | some a =>
    let s ← s.settle
    return { s with pending? := some (a, [value]), places := s.places + 1, awaits := false }
  | none =>
    if s.plain && c.hasInner value then throw .unknownArgument
    else if c.inner.isEmpty then throw .unknownArgument
    else throw .invalidCommand

/-- Takes the values of variables for arguments that were not given. -/
def fill (environment : String → Option String) (s : State) (a : Argument) : Except Usage State :=
  if (s.values.lookup a.key).isSome then .ok s
  else match a.variableName?.bind environment with
    | some value => s.enter a [value]
    | none => .ok s

def has (s : State) (key : String) : Bool := (s.values.lookup key).isSome

/-- Checks what was given against the rules of the command. -/
def check (c : Command) (s : State) (hasInner : Bool) : Except Usage Unit := do
  if !c.inner.isEmpty && !hasInner then
    throw (if s.values.isEmpty then .helpOnNothing else .missingCommand)
  if c.groups.any fun g => 1 < (g.keys.filter s.has).length then throw .conflict
  if (c.named ++ c.placed).any fun a => a.isRequired && !s.has a.key then throw .missingArgument
  if c.groups.any fun g => g.isRequired && !g.keys.any s.has then throw .missingArgument
  if c.needs.any fun n => s.has n.1 && !n.2.any s.has then throw .missingArgument

/-- Ends the arguments of a command, after those of the command within it. -/
def finish (environment : String → Option String) (c : Command) (s : State)
    (inner? : Option (String × Given)) : Except Usage Given := do
  let s ← s.settle
  let s ← c.named.foldlM (fill environment) s
  s.check c inner?.isSome
  return .mk s.values inner?

end State

/-- Shows the help of a command that is named by a path. -/
def helpOn (c : Command) : List String → Usage
  | [] => .help
  | name :: names =>
    match c.find? name with
    | some inner => helpOn inner names
    | none =>
      if !c.hasInner name then .invalidCommand
      else if names.isEmpty then .help
      else .invalidCommand

/-- The name and the attached value of an argument after two dashes. -/
def splitLong (cs : List Char) : String × Option String :=
  match Text.cut? ['='] cs with
  | some (name, value) => (String.ofList name, some (String.ofList value))
  | none => (String.ofList cs, none)

/-- Meets one argument that names no command. -/
def meetOne (c : Command) (s : State) (a : String) : Except Usage State :=
  if s.plain then s.meetPlaced c a
  else
    let value : Except Usage State :=
      match s.awaits, s.pending? with
      | true, some (p, values) =>
        .ok { s with pending? := some (p, values ++ [a]), awaits := false }
      | _, _ => s.meetPlaced c a
    match a.toList with
    | ['-', '-'] => .ok { s with plain := true }
    | '-' :: '-' :: cs =>
      let (name, attached?) := splitLong cs
      match c.long? name with
      | some a => s.meet a attached?
      | none => .error .unknownArgument
    | '-' :: letter :: cs => s.meetLetters c (letter :: cs)
    | _ => value

/-- What the arguments of a command give. -/
def read (environment : String → Option String) (c : Command) (s : State) :
    List String → Except Usage Given
  | [] => s.finish environment c none
  | a :: as =>
    if !s.plain && !s.awaits && c.hasInner a then
      match c.find? a with
      | some inner => do
        let g ← read environment inner {} as
        s.finish environment c (some (a, g))
      | none => .error (helpOn c as)
    else do read environment c (← meetOne c s a) as

end Arguments

end QueryGate
