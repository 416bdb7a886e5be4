import Mathlib.Data.List.Chain
import QueryGate.Text.Case

/-!
Lower case does nothing to a text in lower case. Beyond ASCII this is a property of the table of
case runs, which is checked run against run: no run reaches into a run.
-/

namespace QueryGate.Text

/-- A character that is its own lower case, wherever it stands. -/
def IsLowered (c : Char) : Prop := c ≠ 'Σ' ∧ lowerChar c = [c]

/-! ### The table -/

namespace CaseRun

/-- Whether no run covers a code point between `lo` and `hi`, or none at an even distance from `lo`
if only those count. A run that covers every second code point may lie between them. -/
def avoid (lo hi : Nat) (sparse : Bool) : List CaseRun → Bool
  | [] => true
  | s :: runs =>
    bif Nat.blt s.last lo then avoid lo hi sparse runs
    else Nat.blt hi s.first ||
      (sparse && s.stride == 2 && (lo + s.first) % 2 == 1 && avoid lo hi sparse runs)

lemma covers_eq_false_of_avoid {lo hi : Nat} {sparse : Bool} {runs : List CaseRun}
    (hsorted : runs.Pairwise fun r s => r.first ≤ s.first)
    (h : avoid lo hi sparse runs = true) {m : Nat} (hlo : lo ≤ m) (hhi : m ≤ hi)
    (hm : sparse = true → (m - lo) % 2 = 0) : ∀ s ∈ runs, s.covers m = false := by
  induction runs with
  | nil => simp
  | cons s runs ih =>
    obtain ⟨hs, hsorted⟩ := List.pairwise_cons.mp hsorted
    have hout {t : CaseRun} (ht : t.last < m ∨ m < t.first) : t.covers m = false := by
      rw [covers, Bool.eq_false_iff]
      simp only [ne_eq, Bool.and_eq_true, decide_eq_true_eq, not_and]
      omega
    rw [avoid] at h
    rcases hl : Nat.blt s.last lo
    · rw [hl, cond_false, Bool.or_eq_true, Nat.blt_eq, Bool.and_eq_true, Bool.and_eq_true,
        Bool.and_eq_true, beq_iff_eq, beq_iff_eq] at h
      rcases h with h | ⟨⟨⟨hsp, h2⟩, hodd⟩, h⟩
      · refine List.forall_mem_cons.mpr ⟨hout (by omega), fun t ht => hout ?_⟩
        have := hs t ht
        omega
      · refine List.forall_mem_cons.mpr ⟨?_, ih hsorted h⟩
        have hpar := hm hsp
        rw [covers, h2, Bool.eq_false_iff]
        simp only [ne_eq, Bool.and_eq_true, decide_eq_true_eq, beq_iff_eq, not_and]
        omega
    · rw [hl, cond_true] at h
      rw [Nat.blt_eq] at hl
      exact List.forall_mem_cons.mpr ⟨hout (by omega), ih hsorted h⟩

/-- Whether no code point that a run maps to is covered by one of some runs. -/
def leaves (runs : List CaseRun) (r : CaseRun) : Bool :=
  avoid (r.first + r.shift).toNat (r.last + r.shift).toNat (r.stride == 2 || r.first == r.last) runs

/-- Whether a run maps to characters that are no capital letters of ASCII and neither of the two
letters that are not in the table. -/
def isPlain (r : CaseRun) : Bool :=
  let lands (a b : Int) : Bool := decide (a < r.first + r.shift) && decide (r.last + r.shift < b)
  lands 90 0x130 || lands 0x130 0x3A3 || lands 0x3A3 0xD800 || lands 0xDFFF 0x110000

end CaseRun

lemma sorted_lowerRuns : lowerRuns.Pairwise fun r s => r.first ≤ s.first := by
  have : lowerRuns.IsChain fun r s => r.first ≤ s.first := by decide +kernel
  exact this.pairwise

lemma isPlain_lowerRuns : ∀ r ∈ lowerRuns, r.isPlain = true := by
  decide +kernel

lemma leaves_lowerRuns : lowerRuns.all (CaseRun.leaves lowerRuns) = true := by
  decide +kernel

/-- A code point is mapped to itself, or to a character that is mapped to itself. -/
lemma shiftBy_lowerRuns_cases (n : Nat) :
    shiftBy lowerRuns n = n ∨ ∃ m, shiftBy lowerRuns n = m ∧ m.isValidChar ∧ 90 < m ∧
      m ≠ 0x130 ∧ m ≠ 0x3A3 ∧ shiftBy lowerRuns m = m := by
  rcases h : lowerRuns.find? (·.covers n) with _ | r
  · exact .inl (by rw [shiftBy, h])
  have hr := List.mem_of_find?_eq_some h
  have hn := List.find?_some h
  have hp := isPlain_lowerRuns r hr
  simp only [CaseRun.isPlain, Bool.or_eq_true, Bool.and_eq_true, decide_eq_true_eq] at hp
  simp only [CaseRun.covers, Bool.and_eq_true, decide_eq_true_eq, beq_iff_eq] at hn
  obtain ⟨⟨h1, h2⟩, h3⟩ := hn
  obtain ⟨m, hm⟩ : ∃ m : Nat, (m : Int) = n + r.shift := ⟨(n + r.shift).toNat, by omega⟩
  refine .inr ⟨m, by rw [shiftBy, h]; simp only; omega, ?_, by omega, by omega, by omega, ?_⟩
  · rw [Nat.isValidChar]
    omega
  · have hleaves := List.all_eq_true.mp leaves_lowerRuns r hr
    have hnone : lowerRuns.find? (·.covers m) = none := by
      rw [List.find?_eq_none]
      intro s hs
      rw [CaseRun.covers_eq_false_of_avoid sorted_lowerRuns hleaves (by omega) (by omega) ?_ s hs]
      · simp
      · have hdist : m - (r.first + r.shift).toNat = n - r.first := by omega
        rw [hdist, Bool.or_eq_true, beq_iff_eq, beq_iff_eq]
        rintro (hs | hs)
        · rwa [hs] at h3
        · omega
    rw [shiftBy, hnone]

/-! ### Characters -/

lemma toNat_ofNat {m : Nat} (h : m.isValidChar) : (Char.ofNat m).toNat = m := by
  rw [Char.ofNat, dif_pos h]
  rfl

lemma toLower_of_lt {c : Char} (h : 90 < c.toNat) : c.toLower = c := by
  have hu : ¬ (c.val ≥ 'A'.val ∧ c.val ≤ 'Z'.val) := by
    rw [ge_iff_le, UInt32.le_iff_toNat_le, UInt32.le_iff_toNat_le, Char.toNat_val]
    simp
    omega
  exact dif_neg hu

/-- What ASCII letters become is checked letter by letter. -/
lemma isLowered_toLower {c : Char} (h : c.toNat < 128) : IsLowered c.toLower := by
  have hall : ∀ n < 128, (Char.ofNat n).toLower ≠ 'Σ' ∧
      lowerChar (Char.ofNat n).toLower = [(Char.ofNat n).toLower] := by
    decide
  rw [← Char.ofNat_toNat c]
  exact hall c.toNat h

lemma isLowered_of_shiftBy {m : Nat} (hv : m.isValidChar) (h : 90 < m) (hi : m ≠ 0x130)
    (hs : m ≠ 0x3A3) (hm : shiftBy lowerRuns m = m) : IsLowered (Char.ofNat m) := by
  have hn := toNat_ofNat hv
  have hne (d : Char) (hd : m ≠ d.toNat) : Char.ofNat m ≠ d := by
    intro e
    rw [e] at hn
    exact hd hn.symm
  refine ⟨hne 'Σ' hs, ?_⟩
  rw [lowerChar]
  split
  · rw [toLower_of_lt (by rw [hn]; exact h)]
  · rw [if_neg (hne '\u0130' hi), hn, hm]

lemma isLowered_of_mem_lowerChar {c d : Char} (hc : c ≠ 'Σ') (hd : d ∈ lowerChar c) :
    IsLowered d := by
  rw [lowerChar] at hd
  split at hd
  · next hascii =>
    obtain rfl := List.mem_singleton.mp hd
    exact isLowered_toLower hascii
  · next hascii =>
    split at hd
    · simp only [List.mem_cons, List.not_mem_nil, or_false] at hd
      rcases hd with rfl | rfl
      · exact ⟨by decide, by decide⟩
      · exact ⟨by decide, by decide⟩
    · next hi =>
      obtain rfl := List.mem_singleton.mp hd
      rcases shiftBy_lowerRuns_cases c.toNat with h | ⟨m, h, hv, h90, h1, h2, hm⟩
      · rw [h, Char.ofNat_toNat]
        exact ⟨hc, by rw [lowerChar, if_neg hascii, if_neg hi, h, Char.ofNat_toNat]⟩
      · rw [h]
        exact isLowered_of_shiftBy hv h90 h1 h2 hm

/-! ### Texts -/

lemma isLowered_of_mem_lowerFrom {cs before : List Char} :
    ∀ d ∈ lowerFrom before cs, IsLowered d := by
  induction cs generalizing before with
  | nil => simp [lowerFrom]
  | cons c cs ih =>
    intro d hd
    rw [lowerFrom, List.mem_append] at hd
    rcases hd with hd | hd
    · split at hd
      · split at hd
        · obtain rfl := List.mem_singleton.mp hd
          exact ⟨by decide, by decide⟩
        · obtain rfl := List.mem_singleton.mp hd
          exact ⟨by decide, by decide⟩
      · next hc => exact isLowered_of_mem_lowerChar hc hd
    · exact ih d hd

lemma lowerFrom_of_isLowered {cs : List Char} (h : ∀ c ∈ cs, IsLowered c) (before : List Char) :
    lowerFrom before cs = cs := by
  induction cs generalizing before with
  | nil => rfl
  | cons c cs ih =>
    obtain ⟨hc, hl⟩ := h c List.mem_cons_self
    rw [lowerFrom, if_neg hc, hl, ih fun d hd => h d (List.mem_cons_of_mem _ hd)]
    rfl

/-- **Lower case of lower case is the same text.** -/
theorem lowerFrom_lowerFrom (before before' cs : List Char) :
    lowerFrom before' (lowerFrom before cs) = lowerFrom before cs :=
  lowerFrom_of_isLowered isLowered_of_mem_lowerFrom before'

end QueryGate.Text
