/-!
Reading bytes as text when they may not spell one. Only the shortest spelling of a character counts,
and there is none for half of a surrogate pair.
-/

namespace QueryGate.Utf8

/-- The low six bits of a byte that continues a character. -/
def continuation? (b : UInt8) : Option Nat :=
  if 0x80 ≤ b.toNat ∧ b.toNat < 0xC0 then some (b.toNat - 0x80) else none

def charOf? (least n : Nat) : Option Char :=
  if least ≤ n ∧ n.isValidChar then some (Char.ofNat n) else none

/-- The character that some bytes begin with, and how many bytes spell it. -/
def next? : List UInt8 → Option (Char × Nat)
  | [] => none
  | a :: r =>
    let n := a.toNat
    if n < 0x80 then some (Char.ofNat n, 1)
    else if n < 0xC0 then none
    else if n < 0xE0 then
      match r with
      | b :: _ => do return (← charOf? 0x80 ((n - 0xC0) * 64 + (← continuation? b)), 2)
      | _ => none
    else if n < 0xF0 then
      match r with
      | b :: c :: _ => do
        let m := ((n - 0xE0) * 64 + (← continuation? b)) * 64 + (← continuation? c)
        return (← charOf? 0x800 m, 3)
      | _ => none
    else if n < 0xF8 then
      match r with
      | b :: c :: d :: _ => do
        let m := (((n - 0xF0) * 64 + (← continuation? b)) * 64 + (← continuation? c)) * 64 +
          (← continuation? d)
        return (← charOf? 0x10000 m, 4)
      | _ => none
    else none

/-- The characters of some bytes, with `mark` for every byte that belongs to none. -/
def repair (mark : List Char) (bs : List UInt8) : List Char :=
  match bs with
  | [] => []
  | b :: r =>
    match next? (b :: r) with
    | some (c, n) => c :: repair mark (r.drop (n - 1))
    | none => mark ++ repair mark r
termination_by bs.length
decreasing_by
  · simp only [List.length_cons, List.length_drop]; omega
  · simp

/-- The text that some bytes spell; what spells none is marked. -/
def text (mark : List Char) (bs : List UInt8) : List Char :=
  match String.fromUTF8? ⟨bs.toArray⟩ with
  | some s => s.toList
  | none => repair mark bs

end QueryGate.Utf8
