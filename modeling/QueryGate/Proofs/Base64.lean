import Mathlib.Tactic.Common
import QueryGate.Base64Url

/-!
Writing bytes in base 64. What is written is read back, and nothing else is read: a run of bytes has
one spelling.
-/

namespace QueryGate.Base64Url

/-! ### Digits -/

/-- The digit of a value. -/
def symbol (n : Nat) : Char :=
  if n < 26 then Char.ofNat ('A'.toNat + n)
  else if n < 52 then Char.ofNat ('a'.toNat + (n - 26))
  else if n < 62 then Char.ofNat ('0'.toNat + (n - 52))
  else if n = 62 then '-'
  else '_'

lemma digit?_symbol : ∀ n < 64, digit? (symbol n) = some n := by decide

/-- A character of a range is its offset from the first one. -/
lemma ofNat_offset {a b c : Char} (h : a ≤ c ∧ c ≤ b) :
    c.toNat - a.toNat ≤ b.toNat - a.toNat ∧ Char.ofNat (a.toNat + (c.toNat - a.toNat)) = c := by
  have hlow : a.toNat ≤ c.toNat := UInt32.le_iff_toNat_le.mp h.1
  have hhigh : c.toNat ≤ b.toNat := UInt32.le_iff_toNat_le.mp h.2
  exact ⟨Nat.sub_le_sub_right hhigh _, by rw [Nat.add_sub_cancel' hlow, Char.ofNat_toNat]⟩

lemma symbol_of_digit? {c : Char} {n : Nat} (h : digit? c = some n) : n < 64 ∧ symbol n = c := by
  unfold digit? at h
  split at h
  · next hc =>
    obtain ⟨hle, hoffset⟩ := ofNat_offset hc
    have hrange : 'Z'.toNat - 'A'.toNat = 25 := rfl
    cases h
    exact ⟨by omega, by rw [symbol, if_pos (by omega), hoffset]⟩
  split at h
  · next hc =>
    obtain ⟨hle, hoffset⟩ := ofNat_offset hc
    have hrange : 'z'.toNat - 'a'.toNat = 25 := rfl
    cases h
    refine ⟨by omega, ?_⟩
    rw [symbol, if_neg (by omega), if_pos (by omega), Nat.add_sub_cancel, hoffset]
  split at h
  · next hc =>
    obtain ⟨hle, hoffset⟩ := ofNat_offset hc
    have hrange : '9'.toNat - '0'.toNat = 9 := rfl
    cases h
    refine ⟨by omega, ?_⟩
    rw [symbol, if_neg (by omega), if_neg (by omega), if_pos (by omega), Nat.add_sub_cancel,
      hoffset]
  split at h
  · next hc =>
    cases h
    exact ⟨by decide, hc.symm⟩
  split at h
  · next hc =>
    cases h
    exact ⟨by decide, hc.symm⟩
  · cases h

lemma mapM_digit?_symbol {ds : List Nat} (h : ∀ d ∈ ds, d < 64) :
    (ds.map symbol).mapM digit? = some ds := by
  induction ds with
  | nil => rfl
  | cons d ds ih =>
    obtain ⟨hd, hds⟩ := List.forall_mem_cons.mp h
    simp [List.mapM_cons, digit?_symbol d hd, ih hds]

lemma eq_map_symbol {cs : List Char} {ds : List Nat} (h : cs.mapM digit? = some ds) :
    cs = ds.map symbol ∧ ∀ d ∈ ds, d < 64 := by
  induction cs generalizing ds with
  | nil =>
    cases h
    simp
  | cons c cs ih =>
    rw [List.mapM_cons] at h
    rcases hc : digit? c with _ | d
    · rw [hc] at h
      cases h
    rcases hcs : cs.mapM digit? with _ | es
    · rw [hc, hcs] at h
      cases h
    rw [hc, hcs] at h
    cases h
    obtain ⟨hd, hsymbol⟩ := symbol_of_digit? hc
    obtain ⟨rfl, hes⟩ := ih hcs
    exact ⟨by rw [List.map_cons, hsymbol], List.forall_mem_cons.mpr ⟨hd, hes⟩⟩

/-! ### Bytes -/

/-- The values of the digits of some bytes: four for every three of them. -/
def digitsOfBytes : List UInt8 → List Nat
  | [] => []
  | [x] => [x.toNat / 4, x.toNat % 4 * 16]
  | [x, y] => [x.toNat / 4, x.toNat % 4 * 16 + y.toNat / 16, y.toNat % 16 * 4]
  | x :: y :: z :: r =>
    x.toNat / 4 :: (x.toNat % 4 * 16 + y.toNat / 16) :: (y.toNat % 16 * 4 + z.toNat / 64) ::
      (z.toNat % 64) :: digitsOfBytes r

def encode (bs : List UInt8) : List Char := (digitsOfBytes bs).map symbol

lemma digitsOfBytes_lt (bs : List UInt8) : ∀ d ∈ digitsOfBytes bs, d < 64 := by
  have hbyte (x : UInt8) : x.toNat < 256 := x.toNat_lt
  induction bs using digitsOfBytes.induct with
  | case1 => simp [digitsOfBytes]
  | case2 x =>
    have := hbyte x
    simp only [digitsOfBytes, List.forall_mem_cons]
    refine ⟨by omega, by omega, by simp⟩
  | case3 x y =>
    have := hbyte x
    have := hbyte y
    simp only [digitsOfBytes, List.forall_mem_cons]
    refine ⟨by omega, by omega, by omega, by simp⟩
  | case4 x y z r ih =>
    have := hbyte x
    have := hbyte y
    have := hbyte z
    simp only [digitsOfBytes, List.forall_mem_cons]
    exact ⟨by omega, by omega, by omega, by omega, ih⟩

lemma byte_eq {n : Nat} {x : UInt8} (h : n = x.toNat) : byte n = x := by
  rw [h]
  exact UInt8.ofNat_toNat

lemma toNat_byte {n : Nat} (h : n < 256) : (byte n).toNat = n := UInt8.toNat_ofNat_of_lt h

lemma bytesOfDigits?_digitsOfBytes (bs : List UInt8) :
    bytesOfDigits? (digitsOfBytes bs) = some bs := by
  have hbyte (x : UInt8) : x.toNat < 256 := x.toNat_lt
  induction bs using digitsOfBytes.induct with
  | case1 => rfl
  | case2 x =>
    rw [digitsOfBytes, bytesOfDigits?, if_pos (by omega), byte_eq (x := x) (by omega)]
  | case3 x y =>
    have := hbyte y
    rw [digitsOfBytes, bytesOfDigits?, if_pos (by omega), byte_eq (x := x) (by omega),
      byte_eq (x := y) (by omega)]
  | case4 x y z r ih =>
    have := hbyte y
    have := hbyte z
    rw [digitsOfBytes, bytesOfDigits?, ih, byte_eq (x := x) (by omega),
      byte_eq (x := y) (by omega), byte_eq (x := z) (by omega)]
    rfl

/-- The bits that are left over are zero, so that the digits are those of the bytes. -/
lemma digitsOfBytes_of_bytesOfDigits? {ds : List Nat} {bs : List UInt8} (hd : ∀ d ∈ ds, d < 64)
    (h : bytesOfDigits? ds = some bs) : digitsOfBytes bs = ds := by
  induction ds using bytesOfDigits?.induct generalizing bs with
  | case1 =>
    cases h
    rfl
  | case2 a => cases h
  | case3 a b hb =>
    simp only [List.forall_mem_cons] at hd
    rw [bytesOfDigits?, if_pos hb] at h
    cases h
    rw [digitsOfBytes, toNat_byte (by omega)]
    simp only [List.cons.injEq, and_true]
    exact ⟨by omega, by omega⟩
  | case4 a b hb =>
    rw [bytesOfDigits?, if_neg hb] at h
    cases h
  | case5 a b c hc =>
    simp only [List.forall_mem_cons] at hd
    rw [bytesOfDigits?, if_pos hc] at h
    cases h
    rw [digitsOfBytes, toNat_byte (by omega), toNat_byte (by omega)]
    simp only [List.cons.injEq, and_true]
    exact ⟨by omega, by omega, by omega⟩
  | case6 a b c hc =>
    rw [bytesOfDigits?, if_neg hc] at h
    cases h
  | case7 a b c d ds ih =>
    simp only [List.forall_mem_cons] at hd
    rw [bytesOfDigits?, Option.map_eq_some_iff] at h
    obtain ⟨r, hr, rfl⟩ := h
    rw [digitsOfBytes, toNat_byte (by omega), toNat_byte (by omega), toNat_byte (by omega),
      ih hd.2.2.2.2 hr]
    simp only [List.cons.injEq, and_true]
    exact ⟨by omega, by omega, by omega, by omega⟩

/-- **A text is read as some bytes just when it is their spelling.** -/
theorem decode?_eq_some_iff {cs : List Char} {bs : List UInt8} :
    decode? cs = some bs ↔ cs = encode bs := by
  rw [decode?, Option.bind_eq_some_iff]
  constructor
  · rintro ⟨ds, hds, hbs⟩
    obtain ⟨rfl, hlt⟩ := eq_map_symbol hds
    rw [encode, digitsOfBytes_of_bytesOfDigits? hlt hbs]
  · rintro rfl
    exact ⟨_, mapM_digit?_symbol (digitsOfBytes_lt bs), bytesOfDigits?_digitsOfBytes bs⟩

/-- The mark for padding and the point between parts are no digits. -/
lemma not_mem_encode {c : Char} (hc : digit? c = none) (bs : List UInt8) : c ∉ encode bs := by
  intro h
  obtain ⟨d, hd, rfl⟩ := List.mem_map.mp h
  rw [digit?_symbol d (digitsOfBytes_lt bs d hd)] at hc
  cases hc

end QueryGate.Base64Url
