import QueryGate.Json

/-!
Reading JSON. The grammar is strict: no comments, no trailing commas, no leading zeros, no control
characters inside strings, and nothing but white space around the document.
-/

namespace QueryGate.Json

def isSpace (c : Char) : Bool := c = ' ' || c = '\n' || c = '\t' || c = '\r'

def skipSpace (cs : List Char) : List Char := cs.dropWhile isSpace

/-! ### Strings -/

def hexValue? (c : Char) : Option Nat :=
  if '0' ≤ c ∧ c ≤ '9' then some (c.toNat - '0'.toNat)
  else if 'a' ≤ c ∧ c ≤ 'f' then some (c.toNat - 'a'.toNat + 10)
  else if 'A' ≤ c ∧ c ≤ 'F' then some (c.toNat - 'A'.toNat + 10)
  else none

def hex4? (a b c d : Char) : Option Nat := do
  return ((16 * (← hexValue? a) + (← hexValue? b)) * 16 + (← hexValue? c)) * 16 + (← hexValue? d)

/-- The character that a one-letter escape stands for. -/
def escape? (c : Char) : Option Char :=
  if c = '"' then some '"'
  else if c = '\\' then some '\\'
  else if c = '/' then some '/'
  else if c = 'b' then some '\x08'
  else if c = 'f' then some '\x0c'
  else if c = 'n' then some '\n'
  else if c = 'r' then some '\r'
  else if c = 't' then some '\t'
  else none

/-- The second half of a surrogate pair. -/
def lowHalf? : List Char → Option (Nat × List Char)
  | '\\' :: 'u' :: a :: b :: c :: d :: ds =>
    match hex4? a b c d with
    | some n => if 0xDC00 ≤ n ∧ n < 0xE000 then some (n, ds) else none
    | none => none
  | _ => none

theorem lowHalf?_length {cs ds : List Char} {n : Nat} (h : lowHalf? cs = some (n, ds)) :
    ds.length < cs.length := by
  unfold lowHalf? at h
  split at h
  · split at h
    · split at h
      · cases h; simp only [List.length_cons]; omega
      · cases h
    · cases h
  · cases h

/-- The character that an escape stands for after its backslash; there is none when it names half
of a surrogate pair. -/
def readEscape? : List Char → Option (Option Char × List Char)
  | [] => none
  | e :: ds =>
    if e = 'u' then
      match ds with
      | a :: b :: c :: d :: es =>
        match hex4? a b c d with
        | none => none
        | some n =>
          if 0xD800 ≤ n ∧ n < 0xDC00 then
            match lowHalf? es with
            | some (m, fs) =>
              some (some (Char.ofNat (0x10000 + (n - 0xD800) * 0x400 + (m - 0xDC00))), fs)
            | none => some (none, es)
          else if 0xDC00 ≤ n ∧ n < 0xE000 then some (none, es)
          else some (some (Char.ofNat n), es)
      | _ => none
    else (escape? e).map fun c => (some c, ds)

theorem readEscape?_length {cs ds : List Char} {c : Option Char}
    (h : readEscape? cs = some (c, ds)) : ds.length < cs.length := by
  unfold readEscape? at h
  split at h
  · cases h
  · split at h
    · split at h
      · split at h
        · cases h
        · split at h
          · split at h
            · next hl =>
              cases h
              have := lowHalf?_length hl
              simp only [List.length_cons]; omega
            · cases h; simp only [List.length_cons]; omega
          · split at h <;> (cases h; simp only [List.length_cons]; omega)
      · cases h
    · obtain ⟨_, _, e⟩ := Option.map_eq_some_iff.1 h
      cases e
      simp

/-- A string up to its closing quote, and what follows. The text is missing when it has half of a
surrogate pair. -/
def parseString : List Char → Option (Option (List Char) × List Char)
  | [] => none
  | c :: cs =>
    if c = '"' then some (some [], cs)
    else if c = '\\' then
      match _h : readEscape? cs with
      | some (d, ds) =>
        (parseString ds).map fun r => (r.1.bind fun t => d.map (· :: t), r.2)
      | none => none
    else if c.toNat < 0x20 then none
    else (parseString cs).map fun r => (r.1.map (c :: ·), r.2)
termination_by cs => cs.length
decreasing_by
  · have := readEscape?_length _h
    simp only [List.length_cons]; omega
  · simp

/-! ### Numbers -/

def parseExponent? (cs : List Char) : Option (Int × List Char) :=
  let (negative, ds) := match cs with
    | '+' :: ds => (false, ds)
    | '-' :: ds => (true, ds)
    | ds => (false, ds)
  let digits := ds.takeWhile Char.isDigit
  if digits.isEmpty then none
  else
    let n : Int := Numeral.digitsValue digits
    some (if negative then -n else n, ds.dropWhile Char.isDigit)

def parseNumber? (cs : List Char) : Option (Numeral × List Char) := do
  let (negative, cs) := match cs with
    | '-' :: ds => (true, ds)
    | ds => (false, ds)
  let whole := cs.takeWhile Char.isDigit
  if whole.isEmpty || (whole.head? = some '0' && whole.length > 1) then none
  let rest := cs.dropWhile Char.isDigit
  let (fraction, rest) ← match rest with
    | '.' :: ds =>
      let fraction := ds.takeWhile Char.isDigit
      if fraction.isEmpty then none else some (fraction, ds.dropWhile Char.isDigit)
    | ds => some ([], ds)
  match rest with
  | e :: ds =>
    if e = 'e' ∨ e = 'E' then
      let (exponent, rest) ← parseExponent? ds
      return (⟨negative, whole, fraction, some exponent⟩, rest)
    else return (⟨negative, whole, fraction, none⟩, e :: ds)
  | [] => return (⟨negative, whole, fraction, none⟩, [])

/-! ### Documents -/

/-- An object of the members read so far, unless one of their keys is no text. -/
def objectOf (members : List (Option String × Json)) : Json :=
  match members.mapM fun m => m.1.map (·, m.2) with
  | some ms => .object ms
  | none => .unpaired

mutual

/-- A value and what follows it. `fuel` bounds the characters that may be read. -/
def parseValue (fuel : Nat) (cs : List Char) : Option (Json × List Char) :=
  match fuel with
  | 0 => none
  | fuel + 1 =>
    match skipSpace cs with
    | 'n' :: 'u' :: 'l' :: 'l' :: ds => some (.null, ds)
    | 't' :: 'r' :: 'u' :: 'e' :: ds => some (.bool true, ds)
    | 'f' :: 'a' :: 'l' :: 's' :: 'e' :: ds => some (.bool false, ds)
    | '"' :: ds => do
      let (text, rest) ← parseString ds
      return (match text with | some s => .string (String.ofList s) | none => .unpaired, rest)
    | '[' :: ds =>
      match skipSpace ds with
      | ']' :: es => some (.array [], es)
      | _ => do
        let (items, rest) ← parseItems fuel ds
        return (.array items, rest)
    | '\x7b' :: ds =>
      match skipSpace ds with
      | '\x7d' :: es => some (.object [], es)
      | _ => do
        let (members, rest) ← parseMembers fuel ds
        return (objectOf members, rest)
    | ds => do
      let (n, rest) ← parseNumber? ds
      return (.number n, rest)

/-- The items of an array and its closing bracket. -/
def parseItems (fuel : Nat) (cs : List Char) : Option (List Json × List Char) :=
  match fuel with
  | 0 => none
  | fuel + 1 => do
    let (j, rest) ← parseValue fuel cs
    match skipSpace rest with
    | ',' :: ds =>
      let (js, rest) ← parseItems fuel ds
      return (j :: js, rest)
    | ']' :: ds => return ([j], ds)
    | _ => none

/-- The members of an object and its closing brace. -/
def parseMembers (fuel : Nat) (cs : List Char) :
    Option (List (Option String × Json) × List Char) :=
  match fuel with
  | 0 => none
  | fuel + 1 =>
    match skipSpace cs with
    | '"' :: ds => do
      let (key, rest) ← parseString ds
      match skipSpace rest with
      | ':' :: ds =>
        let (j, rest) ← parseValue fuel ds
        let m := (key.map String.ofList, j)
        match skipSpace rest with
        | ',' :: ds =>
          let (ms, rest) ← parseMembers fuel ds
          return (m :: ms, rest)
        | '\x7d' :: ds => return ([m], ds)
        | _ => none
      | _ => none
    | _ => none

end

/-- The document that a whole text is, if it is one. -/
def parseChars? (cs : List Char) : Option Json :=
  match parseValue (cs.length + 1) cs with
  | some (j, rest) => if (skipSpace rest).isEmpty then some j else none
  | none => none

def parse? (text : String) : Option Json := parseChars? text.toList

end QueryGate.Json
