import QueryGate.Proofs.LowerCase

/-!
Upper and lower case of ASCII letters. What holds of each of the ASCII characters is checked one by
one, and the others are their own upper and lower case as far as ASCII goes.
-/

namespace QueryGate.Text

variable {c : Char}

lemma toUpper_of_not_small (h : c.toNat < 97 ∨ 122 < c.toNat) : c.toUpper = c := by
  have hl : ¬ ('a'.val ≤ c.val ∧ c.val ≤ 'z'.val) := by
    rw [UInt32.le_iff_toNat_le, UInt32.le_iff_toNat_le, Char.toNat_val]
    simp
    omega
  exact dif_neg hl

/-- A property of characters that is checked for ASCII. -/
lemma forall_of_ascii {P : Char → Prop} (hascii : ∀ n < 128, P (Char.ofNat n))
    (h : c.toUpper = c → c.toLower = c → 128 ≤ c.toNat → P c) : P c := by
  by_cases hc : c.toNat < 128
  · rw [← Char.ofNat_toNat c]
    exact hascii c.toNat hc
  · exact h (toUpper_of_not_small (by omega)) (toLower_of_lt (by omega)) (by omega)

lemma toUpper_toUpper (c : Char) : c.toUpper.toUpper = c.toUpper :=
  forall_of_ascii (P := fun c => c.toUpper.toUpper = c.toUpper) (by decide) fun h _ _ => by
    rw [h, h]

lemma toLower_toUpper (c : Char) : c.toUpper.toLower = c.toLower :=
  forall_of_ascii (P := fun c => c.toUpper.toLower = c.toLower) (by decide) fun h _ _ => by
    rw [h]

lemma toUpper_toLower (c : Char) : c.toLower.toUpper = c.toUpper :=
  forall_of_ascii (P := fun c => c.toLower.toUpper = c.toUpper) (by decide) fun _ h _ => by
    rw [h]

lemma eqIgnoringAsciiCase_upperAscii (s : String) :
    eqIgnoringAsciiCase s (upperAscii s) = true := by
  rw [eqIgnoringAsciiCase, lowerAscii, lowerAscii, upperAscii, String.toList_ofList, List.map_map]
  simp only [Function.comp_def, toLower_toUpper, beq_self_eq_true]

/-! ### Upper case over all of Unicode -/

lemma toUpper_ofNat {n : Nat} (h : n < 97 ∨ 122 < n) : (Char.ofNat n).toUpper = Char.ofNat n := by
  refine toUpper_of_not_small ?_
  by_cases hn : n.isValidChar
  · rwa [toNat_ofNat hn]
  · rw [Char.ofNat, dif_neg hn]
    decide

/-- The tables map to no small ASCII letter. -/
lemma upper_tables : (∀ r ∈ upperRuns, r.last + r.shift < 97 ∨ 122 < r.first + r.shift) ∧
    ∀ x ∈ upperExpansions, ∀ n ∈ x.2, n < 97 ∨ 122 < n := by
  decide +kernel

lemma shiftBy_upperRuns {n : Nat} (hn : 128 ≤ n) :
    shiftBy upperRuns n < 97 ∨ 122 < shiftBy upperRuns n := by
  rw [shiftBy]
  split
  · next r h =>
    have hrun := upper_tables.1 r (List.mem_of_find?_eq_some h)
    have hcovers := List.find?_some h
    simp only [CaseRun.covers, Bool.and_eq_true, decide_eq_true_eq] at hcovers
    omega
  · omega

/-- There is no small ASCII letter in an upper case. -/
lemma toUpper_of_mem_upperChar {e : Char} (h : e ∈ upperChar c) : e.toUpper = e := by
  rw [upperChar] at h
  split at h
  · obtain rfl := List.mem_singleton.mp h
    exact toUpper_toUpper c
  · next hc =>
    split at h
    · next hx =>
      obtain ⟨n, hn, rfl⟩ := List.mem_map.mp h
      exact toUpper_ofNat (upper_tables.2 _ (List.mem_of_find?_eq_some hx) n hn)
    · obtain rfl := List.mem_singleton.mp h
      exact toUpper_ofNat (shiftBy_upperRuns (by omega))

end QueryGate.Text
