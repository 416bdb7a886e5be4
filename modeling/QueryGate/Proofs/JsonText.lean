import Mathlib.Tactic.Common
import QueryGate.Json.Parser
import QueryGate.Json.Printer

/-!
Documents come back from their indented and from their compact form, which differ in white space
only. Numbers are left out: the documents that are written and read again have none.
-/

namespace QueryGate.Json

/-! ### Strings -/

lemma hexValue?_hexDigit : ∀ n < 16, hexValue? (hexDigit n) = some n := by decide

lemma hex4?_of_lt {n : Nat} (h : n < 256) :
    hex4? '0' '0' (hexDigit (n / 16)) (hexDigit (n % 16)) = some n := by
  have h0 : hexValue? '0' = some 0 := by decide
  have h1 := hexValue?_hexDigit (n / 16) (by omega)
  have h2 := hexValue?_hexDigit (n % 16) (by omega)
  rw [hex4?, h0, h1, h2]
  simp only [Option.pure_def, Option.bind_eq_bind, Option.bind_some, Option.some.injEq]
  omega

lemma readEscape?_control {c : Char} (h : c.toNat < 0x20) (ds : List Char) :
    readEscape? ('u' :: '0' :: '0' :: hexDigit (c.toNat / 16) :: hexDigit (c.toNat % 16) :: ds) =
      some (some c, ds) := by
  have hhigh : ¬ (0xD800 ≤ c.toNat ∧ c.toNat < 0xDC00) := by omega
  have hlow : ¬ (0xDC00 ≤ c.toNat ∧ c.toNat < 0xE000) := by omega
  rw [readEscape?, if_pos rfl]
  simp only [hex4?_of_lt (n := c.toNat) (by omega), if_neg hhigh, if_neg hlow, Char.ofNat_toNat]

/-- A string goes on behind an escape, and has a text when the escape stands for a character. -/
lemma parseString_backslash (cs : List Char) :
    parseString ('\\' :: cs) = (readEscape? cs).bind fun e =>
      (parseString e.2).map fun r => (r.1.bind fun t => e.1.map (· :: t), r.2) := by
  rw [parseString.eq_def]
  simp only [Char.reduceEq, if_false, if_true]
  split
  · next d ds h => rw [h, Option.bind_some]
  · next h => rw [h, Option.bind_none]

lemma parseString_escaped {e c : Char} {cs ds : List Char}
    (h : readEscape? (e :: cs) = some (some c, ds)) :
    parseString ('\\' :: e :: cs) = (parseString ds).map fun r => (r.1.map (c :: ·), r.2) := by
  rw [parseString_backslash, h, Option.bind_some]
  rcases parseString ds with _ | ⟨_ | t, rest⟩ <;> rfl

lemma parseString_plain {c : Char} (hq : c ≠ '"') (hs : c ≠ '\\') (h : ¬ c.toNat < 0x20)
    (cs : List Char) :
    parseString (c :: cs) = (parseString cs).map fun r => (r.1.map (c :: ·), r.2) := by
  rw [parseString.eq_def]
  simp only [if_neg hq, if_neg hs, if_neg h]

/-- A character is read back from the way it is written. -/
lemma parseString_escapeChar (c : Char) (cs : List Char) :
    parseString (escapeChar c ++ cs) =
      (parseString cs).map fun r => (r.1.map (c :: ·), r.2) := by
  rw [escapeChar]
  split
  · next h => exact parseString_escaped (by rw [h]; rfl)
  split
  · next h => exact parseString_escaped (by rw [h]; rfl)
  split
  · next h => exact parseString_escaped (by rw [h]; rfl)
  split
  · next h => exact parseString_escaped (by rw [h]; rfl)
  split
  · next h => exact parseString_escaped (by rw [h]; rfl)
  split
  · next h => exact parseString_escaped (by rw [h]; rfl)
  split
  · next h => exact parseString_escaped (by rw [h]; rfl)
  split
  · next h => exact parseString_escaped (readEscape?_control h cs)
  · next hq hs _ _ _ _ _ h => exact parseString_plain hq hs h cs

lemma parseString_quote (cs rest : List Char) :
    parseString (cs.flatMap escapeChar ++ '"' :: rest) = some (some cs, rest) := by
  induction cs with
  | nil =>
    rw [List.flatMap_nil, List.nil_append, parseString.eq_def]
    rfl
  | cons c cs ih =>
    rw [List.flatMap_cons, List.append_assoc, parseString_escapeChar, ih]
    rfl

/-! ### White space -/

lemma skipSpace_cons {c : Char} (hc : isSpace c = false) (cs : List Char) :
    skipSpace (c :: cs) = c :: cs :=
  List.dropWhile_cons_of_neg (by simp [hc])

lemma skipSpace_newline (level : Nat) (cs : List Char) :
    skipSpace (newline level ++ cs) = skipSpace cs := by
  have hspaces (n : Nat) : skipSpace (List.replicate n ' ' ++ cs) = skipSpace cs := by
    induction n with
    | zero => rfl
    | succ n ih => exact ih
  exact hspaces (2 * level)

lemma skipSpace_space (cs : List Char) : skipSpace (' ' :: cs) = skipSpace cs := rfl

/-- White space before a value is not looked at. -/
lemma parseValue_congr {fuel : Nat} {cs ds : List Char} (h : skipSpace cs = skipSpace ds) :
    parseValue fuel cs = parseValue fuel ds := by
  rcases fuel with _ | fuel
  · rfl
  · rw [parseValue, parseValue, h]

/-! ### Documents -/

mutual

/-- Documents without numbers and without strings that are no text. -/
def isPlain : Json → Bool
  | .number _ => false
  | .unpaired => false
  | .array items => arePlain items
  | .object members => membersArePlain members
  | _ => true

def arePlain : List Json → Bool
  | [] => true
  | j :: js => j.isPlain && arePlain js

def membersArePlain : List (String × Json) → Bool
  | [] => true
  | (_, j) :: ms => j.isPlain && membersArePlain ms

end

lemma objectOf_map (ms : List (String × Json)) :
    objectOf (ms.map fun m => (some m.1, m.2)) = .object ms := by
  have h : (ms.map fun m => (some m.1, m.2)).mapM
      (fun m : Option String × Json => m.1.map (·, m.2)) = some ms := by
    induction ms with
    | nil => rfl
    | cons m ms ih => simp [List.mapM_cons, ih]
  rw [objectOf, h]

lemma eq_map_of_mapM {members : List (Option String × Json)} {ms : List (String × Json)}
    (h : (members.mapM fun m => m.1.map (·, m.2)) = some ms) :
    members = ms.map fun m => (some m.1, m.2) := by
  induction members generalizing ms with
  | nil =>
    cases h
    rfl
  | cons m members ih =>
    rw [List.mapM_cons] at h
    obtain ⟨m', hm, h⟩ := Option.bind_eq_some_iff.mp h
    obtain ⟨ms', hms, h⟩ := Option.bind_eq_some_iff.mp h
    obtain ⟨k, hk, rfl⟩ := Option.map_eq_some_iff.mp hm
    obtain rfl := Option.some.inj h
    rw [List.map_cons, ← ih hms, ← hk]

lemma parseValue_array {fuel : Nat} {ds rest : List Char} {items : List Json} {c : Char}
    (hc : ∃ es, skipSpace ds = c :: es) (hne : c ≠ ']')
    (h : parseItems fuel ds = some (items, rest)) :
    parseValue (fuel + 1) ('[' :: ds) = some (.array items, rest) := by
  obtain ⟨es, hes⟩ := hc
  rw [parseValue, skipSpace_cons (by decide)]
  simp only [hes]
  split
  · next e => exact absurd (List.cons.inj e).1 hne
  · rw [h]
    rfl

lemma parseValue_object {fuel : Nat} {ds rest es : List Char} {ms : List (String × Json)}
    (hq : skipSpace ds = '"' :: es)
    (h : parseMembers fuel ds = some (ms.map fun m => (some m.1, m.2), rest)) :
    parseValue (fuel + 1) ('\x7b' :: ds) = some (.object ms, rest) := by
  rw [parseValue, skipSpace_cons (by decide)]
  simp only [hq, h]
  rw [← objectOf_map ms]
  rfl

lemma parseItems_last {fuel : Nat} {cs rest ds : List Char} {j : Json}
    (hj : parseValue fuel cs = some (j, rest)) (hr : skipSpace rest = ']' :: ds) :
    parseItems (fuel + 1) cs = some ([j], ds) := by
  rw [parseItems, hj]
  simp [hr]

lemma parseItems_more {fuel : Nat} {cs rest ds tail : List Char} {j : Json} {js : List Json}
    (hj : parseValue fuel cs = some (j, rest)) (hr : skipSpace rest = ',' :: ds)
    (h : parseItems fuel ds = some (js, tail)) :
    parseItems (fuel + 1) cs = some (j :: js, tail) := by
  rw [parseItems, hj]
  simp [hr, h]

/-! ### Layouts -/

/-- The white space before each value of a level, and after a colon. -/
structure Layout where
  gap : Nat → List Char
  blank : List Char
  skip_gap : ∀ level cs, skipSpace (gap level ++ cs) = skipSpace cs
  skip_blank : ∀ cs, skipSpace (blank ++ cs) = skipSpace cs

namespace Layout

def indented : Layout := ⟨newline, [' '], skipSpace_newline, skipSpace_space⟩

def dense : Layout := ⟨fun _ => [], [], fun _ _ => rfl, fun _ => rfl⟩

mutual

/-- A document in some layout. -/
def value (l : Layout) (level : Nat) : Json → List Char
  | .array [] => ['[', ']']
  | .array (j :: js) => '[' :: l.items (level + 1) (j :: js) ++ l.gap level ++ [']']
  | .object [] => ['\x7b', '\x7d']
  | .object (m :: ms) => '\x7b' :: l.members (level + 1) (m :: ms) ++ l.gap level ++ ['\x7d']
  | .null => ['n', 'u', 'l', 'l']
  | .bool true => ['t', 'r', 'u', 'e']
  | .bool false => ['f', 'a', 'l', 's', 'e']
  | .number n => n.toChars
  | .string s => quote s
  | .unpaired => ['"', '"']

def items (l : Layout) (level : Nat) : List Json → List Char
  | [] => []
  | [j] => l.gap level ++ l.value level j
  | j :: js => l.gap level ++ l.value level j ++ ',' :: l.items level js

def members (l : Layout) (level : Nat) : List (String × Json) → List Char
  | [] => []
  | [(k, j)] => l.gap level ++ quote k ++ ':' :: (l.blank ++ l.value level j)
  | (k, j) :: ms =>
    l.gap level ++ quote k ++ ':' :: (l.blank ++ l.value level j) ++ ',' :: l.members level ms

end

variable (l : Layout)

/-- What a value can begin with. -/
lemma value_head {j : Json} (h : j.isPlain = true) (level : Nat) :
    ∃ c cs, l.value level j = c :: cs ∧ isSpace c = false ∧ c ≠ ']' := by
  cases j with
  | null => exact ⟨'n', _, rfl, by decide, by decide⟩
  | bool b =>
    cases b with
    | false => exact ⟨'f', _, rfl, by decide, by decide⟩
    | true => exact ⟨'t', _, rfl, by decide, by decide⟩
  | number n => simp [isPlain] at h
  | string s => exact ⟨'"', _, rfl, by decide, by decide⟩
  | unpaired => simp [isPlain] at h
  | array items =>
    cases items with
    | nil => exact ⟨'[', _, rfl, by decide, by decide⟩
    | cons j js => exact ⟨'[', _, rfl, by decide, by decide⟩
  | object members =>
    cases members with
    | nil => exact ⟨'\x7b', _, rfl, by decide, by decide⟩
    | cons m ms => exact ⟨'\x7b', _, rfl, by decide, by decide⟩

lemma skipSpace_key (level : Nat) (k : String) (cs : List Char) :
    skipSpace (l.gap level ++ quote k ++ ':' :: cs) =
      '"' :: (k.toList.flatMap escapeChar ++ '"' :: ':' :: cs) := by
  rw [List.append_assoc, l.skip_gap, quote, quoteChars, List.cons_append, List.cons_append,
    List.append_assoc, skipSpace_cons (by decide)]
  rfl

lemma parseMembers_last {fuel : Nat} {k : String} {j : Json} {cs rest ds : List Char}
    (hj : parseValue fuel cs = some (j, rest)) (hr : skipSpace rest = '\x7d' :: ds)
    (level : Nat) :
    parseMembers (fuel + 1) (l.gap level ++ quote k ++ ':' :: (l.blank ++ cs)) =
      some ([(some k, j)], ds) := by
  rw [← parseValue_congr (l.skip_blank cs)] at hj
  rw [parseMembers, skipSpace_key]
  simp [parseString_quote, skipSpace_cons (c := ':') (by decide), hj, hr]

lemma parseMembers_more {fuel : Nat} {k : String} {j : Json} {cs rest ds tail : List Char}
    {ms : List (Option String × Json)} (hj : parseValue fuel cs = some (j, rest))
    (hr : skipSpace rest = ',' :: ds) (h : parseMembers fuel ds = some (ms, tail))
    (level : Nat) :
    parseMembers (fuel + 1) (l.gap level ++ quote k ++ ':' :: (l.blank ++ cs)) =
      some ((some k, j) :: ms, tail) := by
  rw [← parseValue_congr (l.skip_blank cs)] at hj
  rw [parseMembers, skipSpace_key]
  simp [parseString_quote, skipSpace_cons (c := ':') (by decide), hj, hr, h]

lemma items_cons (level : Nat) (j k : Json) (js : List Json) :
    l.items level (j :: k :: js) =
      l.gap level ++ l.value level j ++ ',' :: l.items level (k :: js) := by
  simp [items]

lemma members_cons (level : Nat) (k : String) (j : Json) (m : String × Json)
    (ms : List (String × Json)) :
    l.members level ((k, j) :: m :: ms) =
      l.gap level ++ quote k ++ ':' :: (l.blank ++ l.value level j) ++
        ',' :: l.members level (m :: ms) := by
  simp [members]

lemma exists_items (j : Json) (js : List Json) (level : Nat) :
    ∃ more, l.items level (j :: js) = l.gap level ++ l.value level j ++ more := by
  rcases js with _ | ⟨k, js⟩
  · exact ⟨[], by rw [items, List.append_nil]⟩
  · exact ⟨_, l.items_cons level j k js⟩

lemma exists_members (k : String) (j : Json) (ms : List (String × Json)) (level : Nat) :
    ∃ more, l.members level ((k, j) :: ms) = l.gap level ++ quote k ++ ':' :: more := by
  rcases ms with _ | ⟨m, ms⟩
  · exact ⟨_, by rw [members]⟩
  · refine ⟨l.blank ++ l.value level j ++ ',' :: l.members level (m :: ms), ?_⟩
    rw [members_cons, List.append_assoc]
    rfl

mutual

/-- A document is read back, whatever follows it. The fuel lasts because a level has two brackets,
and every item but the last a comma. -/
lemma parseValue_value (j : Json) (h : j.isPlain = true) (level fuel : Nat) (rest : List Char)
    (hf : (l.value level j).length < fuel) :
    parseValue fuel (l.value level j ++ rest) = some (j, rest) := by
  obtain ⟨fuel, rfl⟩ : ∃ n, fuel = n + 1 := ⟨fuel - 1, by omega⟩
  match j with
  | .null => rfl
  | .bool true => rfl
  | .bool false => rfl
  | .number n => simp [isPlain] at h
  | .unpaired => simp [isPlain] at h
  | .string s =>
    rw [value, quote, quoteChars, parseValue, List.cons_append, List.cons_append,
      skipSpace_cons (by decide)]
    simp [parseString_quote]
  | .array [] => rfl
  | .array (j :: js) =>
    have hplain : arePlain (j :: js) = true := by simpa [isPlain] using h
    have hlen : (l.items (level + 1) (j :: js)).length + 1 < fuel := by
      rw [value] at hf
      simp only [List.length_cons, List.length_append] at hf
      omega
    have htext : l.value level (.array (j :: js)) ++ rest =
        '[' :: (l.items (level + 1) (j :: js) ++ (l.gap level ++ ']' :: rest)) := by
      simp [value]
    have hclose : skipSpace (l.gap level ++ ']' :: rest) = ']' :: rest := by
      rw [l.skip_gap, skipSpace_cons (by decide)]
    have hj : j.isPlain = true := by
      rw [arePlain, Bool.and_eq_true] at hplain
      exact hplain.1
    obtain ⟨c, cs, hhead, hc, hne⟩ := l.value_head hj (level + 1)
    obtain ⟨more, hmore⟩ := l.exists_items j js (level + 1)
    have hopen : skipSpace (l.items (level + 1) (j :: js) ++ (l.gap level ++ ']' :: rest)) =
        c :: (cs ++ (more ++ (l.gap level ++ ']' :: rest))) := by
      rw [hmore, List.append_assoc, List.append_assoc, l.skip_gap, hhead, List.cons_append,
        skipSpace_cons hc]
    rw [htext]
    exact parseValue_array ⟨_, hopen⟩ hne
      (parseItems_items j js hplain (level + 1) fuel _ _ hclose hlen)
  | .object [] => rfl
  | .object (m :: ms) =>
    have hplain : membersArePlain (m :: ms) = true := by simpa [isPlain] using h
    have hlen : (l.members (level + 1) (m :: ms)).length + 1 < fuel := by
      rw [value] at hf
      simp only [List.length_cons, List.length_append] at hf
      omega
    have htext : l.value level (.object (m :: ms)) ++ rest =
        '\x7b' :: (l.members (level + 1) (m :: ms) ++ (l.gap level ++ '\x7d' :: rest)) := by
      simp [value]
    have hclose : skipSpace (l.gap level ++ '\x7d' :: rest) = '\x7d' :: rest := by
      rw [l.skip_gap, skipSpace_cons (by decide)]
    obtain ⟨more, hmore⟩ := l.exists_members m.1 m.2 ms (level + 1)
    have hopen : skipSpace (l.members (level + 1) (m :: ms) ++ (l.gap level ++ '\x7d' :: rest)) =
        '"' :: (m.1.toList.flatMap escapeChar ++
          '"' :: ':' :: (more ++ (l.gap level ++ '\x7d' :: rest))) := by
      rw [hmore, List.append_assoc, List.cons_append, skipSpace_key]
    rw [htext]
    exact parseValue_object hopen
      (parseMembers_members m ms hplain (level + 1) fuel _ _ hclose hlen)
termination_by fuel

lemma parseItems_items (j : Json) (js : List Json) (h : arePlain (j :: js) = true)
    (level fuel : Nat) (rest tail : List Char) (hr : skipSpace rest = ']' :: tail)
    (hf : (l.items level (j :: js)).length + 1 < fuel) :
    parseItems fuel (l.items level (j :: js) ++ rest) = some (j :: js, tail) := by
  obtain ⟨fuel, rfl⟩ : ∃ n, fuel = n + 1 := ⟨fuel - 1, by omega⟩
  rw [arePlain, Bool.and_eq_true] at h
  match js with
  | [] =>
    rw [items] at hf ⊢
    have hlen : (l.value level j).length < fuel := by
      simp only [List.length_append] at hf
      omega
    have hj := parseValue_value j h.1 level fuel rest hlen
    refine parseItems_last ?_ hr
    rw [← hj]
    refine parseValue_congr ?_
    rw [List.append_assoc, l.skip_gap]
  | k :: js =>
    rw [items_cons] at hf ⊢
    have hlen : (l.value level j).length < fuel ∧
        (l.items level (k :: js)).length + 1 < fuel := by
      simp only [List.length_cons, List.length_append] at hf
      omega
    have hj := parseValue_value j h.1 level fuel
      (',' :: (l.items level (k :: js) ++ rest)) hlen.1
    have hjs := parseItems_items k js h.2 level fuel rest tail hr hlen.2
    refine parseItems_more ?_ (skipSpace_cons (by decide) _) hjs
    rw [← hj]
    refine parseValue_congr ?_
    rw [List.append_assoc, List.append_assoc, l.skip_gap, List.cons_append]
termination_by fuel

lemma parseMembers_members (m : String × Json) (ms : List (String × Json))
    (h : membersArePlain (m :: ms) = true) (level fuel : Nat) (rest tail : List Char)
    (hr : skipSpace rest = '\x7d' :: tail)
    (hf : (l.members level (m :: ms)).length + 1 < fuel) :
    parseMembers fuel (l.members level (m :: ms) ++ rest) =
      some ((m :: ms).map fun m => (some m.1, m.2), tail) := by
  obtain ⟨fuel, rfl⟩ : ∃ n, fuel = n + 1 := ⟨fuel - 1, by omega⟩
  obtain ⟨k, j⟩ := m
  rw [membersArePlain, Bool.and_eq_true] at h
  match ms with
  | [] =>
    rw [members] at hf ⊢
    have hlen : (l.value level j).length < fuel := by
      simp only [List.length_cons, List.length_append] at hf
      omega
    have hj := parseValue_value j h.1 level fuel rest hlen
    rw [List.append_assoc, List.cons_append, List.append_assoc l.blank]
    exact l.parseMembers_last hj hr level
  | m :: ms =>
    rw [members_cons] at hf ⊢
    have hlen : (l.value level j).length < fuel ∧
        (l.members level (m :: ms)).length + 1 < fuel := by
      simp only [List.length_cons, List.length_append] at hf
      omega
    have hj := parseValue_value j h.1 level fuel
      (',' :: (l.members level (m :: ms) ++ rest)) hlen.1
    have hms := parseMembers_members m ms h.2 level fuel rest tail hr hlen.2
    have := l.parseMembers_more (k := k) hj (skipSpace_cons (by decide) _) hms level
    simpa using this
termination_by fuel

end

/-- **A document is read back from any layout.** -/
theorem parseChars?_value {j : Json} (h : j.isPlain = true) :
    parseChars? (l.value 0 j) = some j := by
  have hread := l.parseValue_value j h 0 ((l.value 0 j).length + 1) [] (Nat.lt_succ_self _)
  rw [List.append_nil] at hread
  rw [parseChars?, hread]
  rfl

end Layout

/-! ### The two written forms -/

mutual

lemma prettyChars_eq (level : Nat) (j : Json) :
    prettyChars level j = Layout.indented.value level j := by
  match j with
  | .null => rfl
  | .bool true => rfl
  | .bool false => rfl
  | .number n => rfl
  | .unpaired => rfl
  | .string s => rfl
  | .array [] => rfl
  | .array (j :: js) =>
    rw [prettyChars, Layout.value, prettyItems_eq]
    rfl
  | .object [] => rfl
  | .object (m :: ms) =>
    rw [prettyChars, Layout.value, prettyMembers_eq]
    rfl

lemma prettyItems_eq (level : Nat) (js : List Json) :
    prettyItems level js = Layout.indented.items level js := by
  match js with
  | [] => rfl
  | [j] =>
    rw [prettyItems, Layout.items, prettyChars_eq]
    rfl
  | j :: k :: js =>
    rw [prettyItems, Layout.items, prettyChars_eq, prettyItems_eq]
    · rfl
    · simp
    · simp

lemma prettyMembers_eq (level : Nat) (ms : List (String × Json)) :
    prettyMembers level ms = Layout.indented.members level ms := by
  match ms with
  | [] => rfl
  | [(k, j)] =>
    rw [prettyMembers, Layout.members, prettyChars_eq]
    rfl
  | (k, j) :: m :: ms =>
    rw [prettyMembers, Layout.members, prettyChars_eq, prettyMembers_eq]
    · rfl
    · simp
    · simp

end

mutual

lemma compactChars_eq (level : Nat) (j : Json) :
    compactChars j = Layout.dense.value level j := by
  match j with
  | .null => rfl
  | .bool true => rfl
  | .bool false => rfl
  | .number n => rfl
  | .unpaired => rfl
  | .string s => rfl
  | .array [] => rfl
  | .array (j :: js) =>
    rw [compactChars, Layout.value, compactItems_eq (level + 1)]
    simp [Layout.dense]
  | .object [] => rfl
  | .object (m :: ms) =>
    rw [compactChars, Layout.value, compactMembers_eq (level + 1)]
    simp [Layout.dense]

lemma compactItems_eq (level : Nat) (js : List Json) :
    compactItems js = Layout.dense.items level js := by
  match js with
  | [] => rfl
  | [j] =>
    rw [compactItems, Layout.items, compactChars_eq level]
    rfl
  | j :: k :: js =>
    rw [compactItems, Layout.items, compactChars_eq level, compactItems_eq level]
    · rfl
    · simp
    · simp

lemma compactMembers_eq (level : Nat) (ms : List (String × Json)) :
    compactMembers ms = Layout.dense.members level ms := by
  match ms with
  | [] => rfl
  | [(k, j)] =>
    rw [compactMembers, Layout.members, compactChars_eq level]
    rfl
  | (k, j) :: m :: ms =>
    rw [compactMembers, Layout.members, compactChars_eq level, compactMembers_eq level]
    · rfl
    · simp
    · simp

end

/-- **A document is read back from its indented form.** -/
theorem parse?_pretty {j : Json} (h : j.isPlain = true) : parse? j.pretty = some j := by
  rw [parse?, pretty, String.toList_ofList, prettyChars_eq, Layout.parseChars?_value _ h]

/-- **A document is read back from its compact form.** -/
theorem parse?_compact {j : Json} (h : j.isPlain = true) : parse? j.compact = some j := by
  rw [parse?, compact, String.toList_ofList, compactChars_eq 0, Layout.parseChars?_value _ h]

end QueryGate.Json
