import QueryGate.Lexeme
import QueryGate.Text.Search

/-!
Reading a text as lexemes. Each rule takes the longest lexeme of its shape, and the gap and the
lexeme together are a prefix of what is left: `toChars_ofChars` says that nothing is lost.
-/

namespace QueryGate.Lexeme

def isWordStart (c : Char) : Bool := c.isAlpha || c == '_'

def isWordPart (c : Char) : Bool := c.isAlphanum || c == '_' || c == '$'

/-! ### Gaps -/

/-- The comment that a text begins with, and what follows it. A line comment ends before its line
break, a block comment at the first mark that closes one. -/
def comment? : List Char → Option (List Char × List Char)
  | '-' :: '-' :: ds => some ('-' :: '-' :: ds.takeWhile (· ≠ '\n'), ds.dropWhile (· ≠ '\n'))
  | '/' :: '*' :: ds =>
    let r := Text.through ['*', '/'] ds
    some ('/' :: '*' :: r.1, r.2)
  | _ => none

theorem comment?_append {cs a b : List Char} (h : comment? cs = some (a, b)) : a ++ b = cs := by
  unfold comment? at h
  split at h
  · cases h
    simp only [List.cons_append, List.takeWhile_append_dropWhile]
  · cases h
    simp only [List.cons_append, Text.through_append]
  · cases h

theorem comment?_length {cs a b : List Char} (h : comment? cs = some (a, b)) :
    b.length < cs.length := by
  have hl := congrArg List.length (comment?_append h)
  have ha : 0 < a.length := by
    unfold comment? at h
    split at h <;> cases h <;> simp
  simp only [List.length_append] at hl
  omega

/-- The white space and comments that a text begins with, and what follows them. -/
def gap (cs : List Char) : List Char × List Char :=
  match cs with
  | [] => ([], [])
  | c :: ds =>
    if Text.isBlank c then
      let r := gap ds
      (c :: r.1, r.2)
    else
      match _h : comment? (c :: ds) with
      | some (a, b) =>
        let r := gap b
        (a ++ r.1, r.2)
      | none => ([], c :: ds)
termination_by cs.length
decreasing_by
  · simp
  · exact comment?_length _h

theorem gap_append (cs : List Char) : (gap cs).1 ++ (gap cs).2 = cs := by
  induction hn : cs.length using Nat.strongRecOn generalizing cs with
  | _ n ih =>
    subst hn
    unfold gap
    split
    · rfl
    · next c ds =>
      split
      · simpa using ih ds.length (by simp) ds rfl
      · split
        · next a b h =>
          rw [List.append_assoc, ih b.length (comment?_length h) b rfl, comment?_append h]
        · rfl

/-! ### One lexeme -/

/-- The rest of a quoted lexeme after its opening quote; a doubled quote does not close it. -/
def quoted (q : Char) : List Char → List Char × List Char
  | [] => ([], [])
  | [c] => ([c], [])
  | c :: d :: cs =>
    if c = q then
      if d = q then
        let r := quoted q cs
        (c :: d :: r.1, r.2)
      else ([c], d :: cs)
    else
      let r := quoted q (d :: cs)
      (c :: r.1, r.2)

theorem quoted_append (q : Char) (cs : List Char) :
    (quoted q cs).1 ++ (quoted q cs).2 = cs := by
  fun_induction quoted q cs with
  | case1 => rfl
  | case2 => rfl
  | case3 cs r ih => simpa [r] using ih
  | case4 => rfl
  | case5 c d cs h r ih => simpa [r] using ih

def isTagChar (c : Char) : Bool := c.isAlphanum || c == '_'

/-- The tag of a dollar-quoted string whose first dollar has been read. -/
def dollarTag? (cs : List Char) : Option (List Char) :=
  let tag := cs.takeWhile isTagChar
  if (cs.dropWhile isTagChar).head? = some '$' && !(tag.head?.any Char.isDigit) then some tag
  else none

/-- The rest of a number after its first digit: word characters, then a fraction when a digit
follows the point. -/
def number (cs : List Char) : List Char × List Char :=
  let whole := cs.takeWhile isWordPart
  match cs.dropWhile isWordPart with
  | '.' :: d :: ds =>
    if d.isDigit then
      (whole ++ '.' :: (d :: ds).takeWhile isWordPart, (d :: ds).dropWhile isWordPart)
    else (whole, '.' :: d :: ds)
  | rest => (whole, rest)

theorem number_append (cs : List Char) : (number cs).1 ++ (number cs).2 = cs := by
  have h := List.takeWhile_append_dropWhile (p := isWordPart) (l := cs)
  unfold number
  split
  · next d ds e =>
    rw [e] at h
    split
    · simp only [List.append_assoc, List.cons_append, List.takeWhile_append_dropWhile]; exact h
    · exact h
  · exact h

def markKind (c : Char) : Kind :=
  if c = '.' then .dot else if c = ',' then .comma else if c = ';' then .semicolon
  else if c = '(' then .openParen else if c = ')' then .closeParen else .other

/-- The lexeme that begins with `c`: its kind, its characters after `c`, and what is left. -/
def scan (c : Char) (cs : List Char) : Kind × List Char × List Char :=
  if isWordStart c then (.word, cs.takeWhile isWordPart, cs.dropWhile isWordPart)
  else if c = '"' then (.quotedName, quoted '"' cs)
  else if c = '\'' then (.string, quoted '\'' cs)
  else if c = '$' then
    match dollarTag? cs with
    | some tag =>
      let r := Text.through ('$' :: tag ++ ['$']) (cs.drop (tag.length + 1))
      (.string, cs.take (tag.length + 1) ++ r.1, r.2)
    | none => (.other, [], cs)
  else if c.isDigit then (.number, number cs)
  else (markKind c, [], cs)

theorem scan_append (c : Char) (cs : List Char) : (scan c cs).2.1 ++ (scan c cs).2.2 = cs := by
  unfold scan
  split
  · exact List.takeWhile_append_dropWhile
  split
  · exact quoted_append ..
  split
  · exact quoted_append ..
  split
  · split
    · simp only [List.append_assoc, Text.through_append, List.take_append_drop]
    · rfl
  split
  · exact number_append cs
  · rfl

end QueryGate.Lexeme

namespace QueryGate

open Lexeme

namespace Layout

/-! ### Whole texts -/

/-- Lexemes one after another, each with the gap before it. -/
def ofChars (cs : List Char) : Layout :=
  match _h : gap cs with
  | (g, []) => ⟨[], g⟩
  | (g, c :: ds) =>
    let r := scan c ds
    let l := ofChars r.2.2
    ⟨⟨g, r.1, c :: r.2.1⟩ :: l.placed, l.tail⟩
termination_by cs.length
decreasing_by
  have h1 := congrArg List.length (gap_append cs)
  have h2 := congrArg List.length (scan_append c ds)
  simp only [_h, List.length_append, List.length_cons] at h1 h2
  omega

theorem toChars_ofChars (cs : List Char) : (ofChars cs).toChars = cs := by
  induction hn : cs.length using Nat.strongRecOn generalizing cs with
  | _ n ih =>
    subst hn
    have hg := gap_append cs
    unfold ofChars
    split
    · next g e => simpa [Layout.toChars, e] using hg
    · next g c ds e =>
      have hs := scan_append c ds
      have hl : (scan c ds).2.2.length < cs.length := by
        have h1 := congrArg List.length hg
        have h2 := congrArg List.length hs
        simp only [e, List.length_append, List.length_cons] at h1 h2
        omega
      have hi := ih _ hl _ rfl
      simp only [Layout.toChars, List.flatMap_cons, List.append_assoc] at hi ⊢
      rw [hi, List.cons_append, hs]
      simpa [e] using hg

def ofText (sql : String) : Layout := ofChars sql.toList

end Layout

def Lexeme.ofText (sql : String) : List Lexeme := (Layout.ofText sql).lexemes

end QueryGate
