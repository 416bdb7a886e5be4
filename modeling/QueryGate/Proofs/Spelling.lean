import QueryGate.Proofs.Disks
import QueryGate.Proofs.LowerCase
import QueryGate.Utf8

/-!
Characters and the bytes that spell them. Bytes are read as characters and marks: each character is
read from its own spelling, and each mark stands for a byte that belongs to none.
-/

namespace QueryGate

namespace Utf8

/-! ### Characters and their bytes -/

section Bytes

variable {a v w x : Nat} {c : Char}

lemma encode_one (h : c.toNat = a) (ha : a < 0x80) : String.utf8EncodeChar c = [.ofNat a] := by
  rw [String.utf8EncodeChar]
  simp only [Char.toNat_val, h]
  rw [if_pos (by omega)]

lemma encode_two (h : c.toNat = a * 64 + v) (hleast : 0x80 ≤ c.toNat) (ha : a < 32)
    (hv : v < 64) : String.utf8EncodeChar c = [.ofNat (a + 0xC0), .ofNat (v + 0x80)] := by
  have h1 : c.toNat / 64 % 32 = a := by omega
  have h2 : c.toNat % 64 = v := by omega
  rw [String.utf8EncodeChar]
  simp only [Char.toNat_val]
  rw [if_neg (by omega), if_pos (by omega), h1, h2]

lemma encode_three (h : c.toNat = (a * 64 + v) * 64 + w) (hleast : 0x800 ≤ c.toNat) (ha : a < 16)
    (hv : v < 64) (hw : w < 64) :
    String.utf8EncodeChar c = [.ofNat (a + 0xE0), .ofNat (v + 0x80), .ofNat (w + 0x80)] := by
  have h1 : c.toNat / 4096 % 16 = a := by omega
  have h2 : c.toNat / 64 % 64 = v := by omega
  have h3 : c.toNat % 64 = w := by omega
  rw [String.utf8EncodeChar]
  simp only [Char.toNat_val]
  rw [if_neg (by omega), if_neg (by omega), if_pos (by omega), h1, h2, h3]

lemma encode_four (h : c.toNat = ((a * 64 + v) * 64 + w) * 64 + x) (hleast : 0x10000 ≤ c.toNat)
    (ha : a < 8) (hv : v < 64) (hw : w < 64) (hx : x < 64) :
    String.utf8EncodeChar c =
      [.ofNat (a + 0xF0), .ofNat (v + 0x80), .ofNat (w + 0x80), .ofNat (x + 0x80)] := by
  have h1 : c.toNat / 262144 % 8 = a := by omega
  have h2 : c.toNat / 4096 % 64 = v := by omega
  have h3 : c.toNat / 64 % 64 = w := by omega
  have h4 : c.toNat % 64 = x := by omega
  rw [String.utf8EncodeChar]
  simp only [Char.toNat_val]
  rw [if_neg (by omega), if_neg (by omega), if_neg (by omega), h1, h2, h3, h4]

end Bytes

lemma ofNat_sub_add {b : UInt8} {k : Nat} (h : k ≤ b.toNat) :
    UInt8.ofNat (b.toNat - k + k) = b := by
  rw [Nat.sub_add_cancel h, UInt8.ofNat_toNat]

lemma continuation?_eq_some {b : UInt8} {n : Nat} (h : continuation? b = some n) :
    n < 64 ∧ .ofNat (n + 0x80) = b := by
  rw [continuation?] at h
  split at h
  · next hb =>
    rw [← Option.some.inj h]
    exact ⟨by omega, ofNat_sub_add hb.1⟩
  · cases h

lemma charOf?_eq_some {least n : Nat} {c : Char} (h : charOf? least n = some c) :
    least ≤ c.toNat ∧ c.toNat = n := by
  rw [charOf?] at h
  split at h
  · next hn =>
    rw [← Option.some.inj h, Text.toNat_ofNat hn.2]
    exact ⟨hn.1, rfl⟩
  · cases h

/-- The bytes that a character is read from are its spelling. -/
lemma next?_eq_some {b : UInt8} {r : List UInt8} {c : Char} {n : Nat}
    (h : next? (b :: r) = some (c, n)) :
    b :: r = String.utf8EncodeChar c ++ r.drop (n - 1) := by
  rw [next?.eq_def] at h
  simp only [Option.pure_def, Option.bind_eq_bind] at h
  split at h
  · next hb =>
    obtain ⟨rfl, rfl⟩ := Prod.mk.inj (Option.some.inj h)
    have hval : (Char.ofNat b.toNat).toNat = b.toNat := Text.toNat_ofNat (.inl (by omega))
    rw [encode_one hval hb, UInt8.ofNat_toNat]
    rfl
  split at h
  · cases h
  split at h
  · split at h
    · obtain ⟨v, hv, h⟩ := Option.bind_eq_some_iff.mp h
      obtain ⟨d, hd, h⟩ := Option.bind_eq_some_iff.mp h
      obtain ⟨rfl, rfl⟩ := Prod.mk.inj (Option.some.inj h)
      obtain ⟨hleast, hval⟩ := charOf?_eq_some hd
      obtain ⟨hvlt, rfl⟩ := continuation?_eq_some hv
      rw [encode_two hval hleast (by omega) hvlt, ofNat_sub_add (by omega)]
      rfl
    · cases h
  split at h
  · split at h
    · obtain ⟨v, hv, h⟩ := Option.bind_eq_some_iff.mp h
      obtain ⟨w, hw, h⟩ := Option.bind_eq_some_iff.mp h
      obtain ⟨d, hd, h⟩ := Option.bind_eq_some_iff.mp h
      obtain ⟨rfl, rfl⟩ := Prod.mk.inj (Option.some.inj h)
      obtain ⟨hleast, hval⟩ := charOf?_eq_some hd
      obtain ⟨hvlt, rfl⟩ := continuation?_eq_some hv
      obtain ⟨hwlt, rfl⟩ := continuation?_eq_some hw
      rw [encode_three hval hleast (by omega) hvlt hwlt, ofNat_sub_add (by omega)]
      rfl
    · cases h
  split at h
  · split at h
    · obtain ⟨v, hv, h⟩ := Option.bind_eq_some_iff.mp h
      obtain ⟨w, hw, h⟩ := Option.bind_eq_some_iff.mp h
      obtain ⟨x, hx, h⟩ := Option.bind_eq_some_iff.mp h
      obtain ⟨d, hd, h⟩ := Option.bind_eq_some_iff.mp h
      obtain ⟨rfl, rfl⟩ := Prod.mk.inj (Option.some.inj h)
      obtain ⟨hleast, hval⟩ := charOf?_eq_some hd
      obtain ⟨hvlt, rfl⟩ := continuation?_eq_some hv
      obtain ⟨hwlt, rfl⟩ := continuation?_eq_some hw
      obtain ⟨hxlt, rfl⟩ := continuation?_eq_some hx
      rw [encode_four hval hleast (by omega) hvlt hwlt hxlt, ofNat_sub_add (by omega)]
      rfl
    · cases h
  · cases h

/-- What bytes may be read as: a character where they spell it, or else a mark for a byte. -/
inductive Read (mark : List Char) : List UInt8 → List Char → Prop
  | nil : Read mark [] []
  | char (c : Char) {bs : List UInt8} {cs : List Char} (h : Read mark bs cs) :
      Read mark (String.utf8EncodeChar c ++ bs) (c :: cs)
  | byte (b : UInt8) {bs : List UInt8} {cs : List Char} (h : Read mark bs cs) :
      Read mark (b :: bs) (mark ++ cs)

lemma read_chars (mark cs : List Char) : Read mark (cs.flatMap String.utf8EncodeChar) cs := by
  induction cs with
  | nil => exact .nil
  | cons c cs ih => exact .char c ih

lemma read_repair (mark : List Char) (bs : List UInt8) : Read mark bs (repair mark bs) := by
  fun_induction repair mark bs with
  | case1 => exact .nil
  | case2 b r c n h ih =>
    rw [next?_eq_some h]
    exact .char c ih
  | case3 b r h ih => exact .byte b ih

/-- The bytes of a text. -/
def bytes (text : String) : List UInt8 := text.toUTF8.data.toList

lemma bytes_eq_flatMap (s : String) : bytes s = s.toList.flatMap String.utf8EncodeChar := by
  rw [bytes, String.toUTF8_eq_toByteArray, ← String.utf8Encode_toList, List.utf8Encode]
  simp

lemma text_bytes (mark : List Char) (s : String) : text mark (bytes s) = s.toList := by
  rw [text, bytes, Array.toArray_toList, Disk.fromUTF8?_toUTF8]

lemma eq_bytes_of_fromUTF8? {bs : List UInt8} {s : String}
    (h : String.fromUTF8? ⟨bs.toArray⟩ = some s) : bs = bytes s := by
  unfold String.fromUTF8? at h
  split at h
  · cases h
    rfl
  · cases h

/-- A text is read from its bytes, and so are the characters and marks of bytes that are no text. -/
lemma read_text (mark : List Char) (bs : List UInt8) : Read mark bs (text mark bs) := by
  rw [text]
  split
  · next s h =>
    rw [eq_bytes_of_fromUTF8? h, bytes_eq_flatMap]
    exact read_chars mark s.toList
  · exact read_repair mark bs

end Utf8

end QueryGate
