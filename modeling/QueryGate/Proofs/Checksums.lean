import Mathlib.Algebra.BigOperators.Fin
import Mathlib.Data.Nat.ModEq
import Mathlib.Tactic.Common
import Mathlib.Tactic.Ring
import QueryGate.Catalog.Fingerprint

/-!
The checksum as a polynomial in 31 over the UTF-16 units of a text. Modulo 2 ^ 32 the number 31 is
invertible, so what stands behind a change never hides it: texts of one length that have different
checksums still have them inside longer texts.
-/

namespace QueryGate

/-! ### Hexadecimal digits -/

/-- The last `k` hexadecimal digits of a number, the greatest first. -/
def hexDigits (k n : Nat) : List Char :=
  (List.range k).map fun i => Nat.digitChar (n / 16 ^ (k - 1 - i) % 16)

lemma hexDigits_succ (k n : Nat) :
    hexDigits (k + 1) n = hexDigits k (n / 16) ++ [Nat.digitChar (n % 16)] := by
  have hhigh : ∀ i ∈ List.range k, Nat.digitChar (n / 16 ^ (k + 1 - 1 - i) % 16) =
      Nat.digitChar (n / 16 / 16 ^ (k - 1 - i) % 16) := by
    intro i hi
    have hi' : i < k := List.mem_range.mp hi
    have hexp : k + 1 - 1 - i = (k - 1 - i) + 1 := by omega
    rw [hexp, Nat.pow_succ', Nat.div_div_eq_div_mul]
  rw [hexDigits, List.range_succ, List.map_append, List.map_congr_left hhigh]
  simp [hexDigits]

lemma digitChar_inj {m n : Nat} (hm : m < 16) (hn : n < 16)
    (h : Nat.digitChar m = Nat.digitChar n) : m = n := by
  have hall : ∀ m < 16, ∀ n < 16, Nat.digitChar m = Nat.digitChar n → m = n := by decide
  exact hall m hm n hn h

lemma hexDigits_inj {k m n : Nat} (hm : m < 16 ^ k) (hn : n < 16 ^ k) :
    hexDigits k m = hexDigits k n ↔ m = n := by
  refine ⟨fun h => ?_, fun h => h ▸ rfl⟩
  induction k generalizing m n with
  | zero => omega
  | succ k ih =>
    rw [Nat.pow_succ] at hm hn
    rw [hexDigits_succ, hexDigits_succ] at h
    obtain ⟨hhigh, hlow⟩ := List.append_inj h (by simp [hexDigits])
    have hdiv : m / 16 = n / 16 := ih (by omega) (by omega) hhigh
    have hmod : m % 16 = n % 16 :=
      digitChar_inj (by omega) (by omega) (List.singleton_inj.mp hlow)
    omega

/-- Digits with zeros in front of them. -/
lemma replicate_toDigits {k n : Nat} (h : n < 16 ^ (k + 1)) :
    List.replicate (k + 1 - (Nat.toDigits 16 n).length) '0' ++ Nat.toDigits 16 n =
      hexDigits (k + 1) n := by
  induction k generalizing n with
  | zero =>
    rw [Nat.toDigits_of_lt_base (by omega), hexDigits_succ, Nat.mod_eq_of_lt (by omega)]
    rfl
  | succ k ih =>
    have hstep := ih (n := n / 16) (by rw [Nat.pow_succ] at h; omega)
    rw [hexDigits_succ, ← hstep]
    rcases Nat.lt_or_ge n 16 with hn | hn
    · have hzero : n / 16 = 0 := by omega
      rw [hzero, Nat.toDigits_of_lt_base hn, Nat.toDigits_of_lt_base (by omega),
        Nat.mod_eq_of_lt hn]
      simp [List.replicate_succ']
    · rw [Nat.toDigits_of_base_le (by omega) hn, List.length_append, List.length_singleton,
        Nat.add_sub_add_right, List.append_assoc]

lemma hex8_eq (n : UInt32) : hex8 n = String.ofList (hexDigits 8 n.toNat) := by
  rw [hex8, replicate_toDigits n.toNat_lt]

lemma hex8_inj {m n : UInt32} : hex8 m = hex8 n ↔ m = n := by
  rw [hex8_eq, hex8_eq, String.ofList_inj, hexDigits_inj m.toNat_lt n.toNat_lt, UInt32.toNat_inj]

/-! ### Units -/

/-- The UTF-16 units of a text. -/
def units (text : String) : List UInt16 := text.toList.flatMap utf16Units

lemma units_append (s t : String) : units (s ++ t) = units s ++ units t := by
  rw [units, String.toList_append, List.flatMap_append]
  rfl

lemma checksum_eq (text : String) : checksum text = hex8 ((units text).foldl hashStep 0) := rfl

/-- The polynomial with the units for coefficients, of which the last one is constant, at 31. -/
def polynomial (us : List UInt16) : Nat :=
  ∑ i : Fin us.length, us[i].toNat * 31 ^ (us.length - (i + 1))

lemma polynomial_cons (u : UInt16) (us : List UInt16) :
    polynomial (u :: us) = u.toNat * 31 ^ us.length + polynomial us := by
  rw [polynomial, polynomial]
  simp only [List.length_cons, Fin.sum_univ_succ]
  simp

variable {h k : UInt32}

lemma toNat_hashStep (h : UInt32) (u : UInt16) :
    (hashStep h u).toNat = (h.toNat * 31 + u.toNat) % 2 ^ 32 := by
  simp [hashStep]

lemma toNat_foldl_hashStep (us : List UInt16) (h : UInt32) :
    (us.foldl hashStep h).toNat = (h.toNat * 31 ^ us.length + polynomial us) % 2 ^ 32 := by
  induction us generalizing h with
  | nil => simp [polynomial, Nat.mod_eq_of_lt h.toNat_lt]
  | cons u us ih =>
    have hstep : (hashStep h u).toNat ≡ h.toNat * 31 + u.toNat [MOD 2 ^ 32] := by
      rw [toNat_hashStep]
      exact Nat.mod_modEq _ _
    calc ((u :: us).foldl hashStep h).toNat
        = ((hashStep h u).toNat * 31 ^ us.length + polynomial us) % 2 ^ 32 := ih _
      _ = ((h.toNat * 31 + u.toNat) * 31 ^ us.length + polynomial us) % 2 ^ 32 :=
          (hstep.mul_right _).add_right _
      _ = (h.toNat * 31 ^ (u :: us).length + polynomial (u :: us)) % 2 ^ 32 := by
          rw [polynomial_cons, List.length_cons]
          ring_nf

/-! ### Signed integers -/

/-- One step of the hash in signed integers, by a shift and a difference. -/
def signedStep (h : Int32) (u : UInt16) : Int32 := (h <<< 5) - h + u.toUInt32.toInt32

lemma toUInt32_signedStep (h : Int32) (u : UInt16) :
    (signedStep h u).toUInt32 = hashStep h.toUInt32 u := by
  have hfive : (5 : Int32).toBitVec.smod 32 = 5#32 := by decide
  have hshift : h.toBitVec <<< 5#32 = h.toBitVec * 32 := by
    rw [BitVec.shiftLeft_eq', BitVec.shiftLeft_eq_mul_twoPow]
    rfl
  -- a signed integer and its unsigned counterpart have the same bits
  have hsigned (x : Int32) : x.toUInt32.toBitVec = x.toBitVec := rfl
  have hunsigned (x : UInt32) : x.toInt32.toBitVec = x.toBitVec := rfl
  have hbits : h.toBitVec * 32 - h.toBitVec + u.toUInt32.toBitVec =
      h.toBitVec * 31 + u.toUInt32.toBitVec := by grind
  rw [← UInt32.toBitVec_inj, hsigned, signedStep, Int32.toBitVec_add, Int32.toBitVec_sub,
    Int32.toBitVec_shiftLeft, hfive, hshift, hunsigned, hbits, hashStep, UInt32.toBitVec_add,
    UInt32.toBitVec_mul, hsigned]
  rfl

lemma toUInt32_foldl_signedStep (us : List UInt16) (h : Int32) :
    (us.foldl signedStep h).toUInt32 = us.foldl hashStep h.toUInt32 := by
  induction us generalizing h with
  | nil => rfl
  | cons u us ih => rw [List.foldl_cons, List.foldl_cons, ih, toUInt32_signedStep]

/-! ### Parts of a text -/

/-- The inverse of 31 brings back the hash before a step. -/
lemma hashStep_cancel (h : UInt32) (u : UInt16) :
    (hashStep h u - u.toUInt32) * 3186588639 = h := by
  rw [hashStep]
  grind

lemma hashStep_left_inj {u : UInt16} : hashStep h u = hashStep k u ↔ h = k := by
  refine ⟨fun e => ?_, fun e => e ▸ rfl⟩
  rw [← hashStep_cancel h u, e, hashStep_cancel]

lemma foldl_hashStep_left_inj {us : List UInt16} :
    us.foldl hashStep h = us.foldl hashStep k ↔ h = k := by
  induction us generalizing h k with
  | nil => rfl
  | cons u us ih => rw [List.foldl_cons, List.foldl_cons, ih, hashStep_left_inj]

/-- What is in front of a text is a term of its own. -/
lemma foldl_hashStep_eq (us : List UInt16) (h : UInt32) :
    us.foldl hashStep h = h * 31 ^ us.length + us.foldl hashStep 0 := by
  induction us generalizing h with
  | nil => simp
  | cons u us ih =>
    rw [List.foldl_cons, List.foldl_cons, ih, ih (hashStep 0 u), hashStep, hashStep,
      List.length_cons]
    grind

lemma foldl_hashStep_between {xs ys : List UInt16} (hlength : xs.length = ys.length)
    (us vs : List UInt16) :
    (us ++ xs ++ vs).foldl hashStep 0 = (us ++ ys ++ vs).foldl hashStep 0 ↔
      xs.foldl hashStep 0 = ys.foldl hashStep 0 := by
  simp only [List.foldl_append]
  rw [foldl_hashStep_left_inj, foldl_hashStep_eq xs, foldl_hashStep_eq ys, hlength,
    UInt32.add_right_inj]

/-- Texts that have different units at one place only. -/
def OneUnitApart (s t : String) : Prop :=
  ∃ us u v vs, u ≠ v ∧ units s = us ++ u :: vs ∧ units t = us ++ v :: vs

lemma OneUnitApart.checksum_ne {s t : String} (h : OneUnitApart s t) :
    checksum s ≠ checksum t := by
  obtain ⟨us, u, v, vs, hne, hs, ht⟩ := h
  intro e
  rw [checksum_eq, checksum_eq, hex8_inj, hs, ht] at e
  have hlength : [u].length = [v].length := rfl
  have hone := (foldl_hashStep_between hlength us vs).mp (by simpa using e)
  have hunits : u.toUInt32 = v.toUInt32 := by simpa [hashStep] using hone
  exact hne (UInt16.toUInt32_inj.mp hunits)

/-! ### The checksum -/

lemma checksum_eq_digits (text : String) :
    checksum text = String.ofList (hexDigits 8 (polynomial (units text) % 2 ^ 32)) := by
  have hhash : ((units text).foldl hashStep 0).toNat = polynomial (units text) % 2 ^ 32 := by
    simpa using toNat_foldl_hashStep (units text) 0
  rw [checksum_eq, hex8_eq, hhash]

lemma checksum_between_iff {x y : String} (hlength : (units x).length = (units y).length)
    (p s : String) : checksum (p ++ x ++ s) = checksum (p ++ y ++ s) ↔ checksum x = checksum y := by
  rw [checksum_eq, checksum_eq, checksum_eq, checksum_eq, hex8_inj, hex8_inj]
  simp only [units_append]
  exact foldl_hashStep_between hlength (units p) (units s)

/-- **The checksum is an exact polynomial hash.** It is the value modulo 2 ^ 32, in eight hexadecimal
digits, and may be computed in signed integers. Parts of one length that stand between the same texts
count as they do alone, so another unit at one place of a canonical text is another fingerprint. -/
theorem checksum_exact :
    (∀ text : String, hash32 text.toList = ((units text).foldl signedStep 0).toUInt32 ∧
      checksum text = String.ofList (hexDigits 8 (polynomial (units text) % 2 ^ 32))) ∧
      (∀ p s x y : String, (units x).length = (units y).length →
        (checksum (p ++ x ++ s) = checksum (p ++ y ++ s) ↔ checksum x = checksum y)) ∧
      (∀ (c : Catalog) (text : String), OneUnitApart c.canonical text →
        checksum text ≠ c.fingerprint) ∧
      ∀ c d : Catalog, OneUnitApart c.canonical d.canonical → c.fingerprint ≠ d.fingerprint := by
  refine ⟨fun text => ⟨?_, checksum_eq_digits text⟩, ?_, ?_, ?_⟩
  · exact (toUInt32_foldl_signedStep (units text) 0).symm
  · intro p s x y hlength
    exact checksum_between_iff hlength p s
  · intro c text h
    exact h.checksum_ne.symm
  · intro c d h
    exact h.checksum_ne

/-- A character of two units. -/
example : checksum "😀" = "001b0d63" := by decide +kernel

/-- Two names with one checksum keep it inside a longer text, and a table that is renamed by one
letter has another fingerprint. -/
theorem checksum_exact_renamed :
    checksum ("x" ++ "Aa" ++ "y") = checksum ("x" ++ "BB" ++ "y") ∧
      Catalog.fingerprint (.ofList [("a", .empty)]) ≠
        Catalog.fingerprint (.ofList [("b", .empty)]) := by
  obtain ⟨-, hbetween, -, hcatalog⟩ := checksum_exact
  refine ⟨(hbetween "x" "y" "Aa" "BB" (by decide +kernel)).mpr (by decide +kernel), ?_⟩
  refine hcatalog _ _ ⟨units "\x7b\"", 97, 98, units "\":\x7b\"columns\":[]\x7d\x7d", ?_, ?_, ?_⟩
  · decide
  · decide +kernel
  · decide +kernel

end QueryGate
