import QueryGate.Proofs.Names
import QueryGate.Proofs.Survival
import QueryGate.Proofs.WordRuns

/-!
Bare names and lower case. No character but a blank one has a blank lower case, and so with quotes;
the lower case of a bare name is bare. A name of another kind is longer than its normal form, and
lower case does not make up for it.
-/

namespace QueryGate

namespace Text

/-! ### Characters -/

/-- The code points that the runs of capital letters are mapped to, and some between them. -/
def loweredRanges : List (Nat × Nat) :=
  lowerRuns.map fun r => ((r.first + r.shift).toNat, (r.last + r.shift).toNat)

lemma inRanges_loweredRanges (n : Nat) :
    shiftBy lowerRuns n = n ∨ inRanges loweredRanges (shiftBy lowerRuns n) = true := by
  rcases h : lowerRuns.find? (·.covers n) with _ | r
  · exact .inl (by rw [shiftBy, h])
  · have hcovers := List.find?_some h
    simp only [CaseRun.covers, Bool.and_eq_true, decide_eq_true_eq] at hcovers
    refine .inr (List.any_eq_true.mpr
      ⟨_, List.mem_map_of_mem (List.mem_of_find?_eq_some h), ?_⟩)
    rw [shiftBy, h, Bool.and_eq_true, decide_eq_true_eq, decide_eq_true_eq]
    simp only
    omega

/-- White space is nobody's lower case but its own. -/
lemma eq_of_isBlank_shiftBy {n : Nat} (h : isBlank (Char.ofNat (shiftBy lowerRuns n)) = true) :
    shiftBy lowerRuns n = n := by
  have happart : apart loweredRanges blankRanges = true := by decide +kernel
  rcases shiftBy_lowerRuns_cases n with hn | ⟨m, hm, hvalid, -⟩
  · exact hn
  · refine (inRanges_loweredRanges n).resolve_right fun hn => ?_
    have hblank := inRanges_blankRanges h
    rw [hm, toNat_ofNat hvalid, ← hm, not_inRanges_of_apart happart hn] at hblank
    cases hblank

/-- What a bare name may not have at its ends. -/
def IsOuter (c : Char) : Prop := isBlank c = true ∨ c = '"'

instance (c : Char) : Decidable (IsOuter c) := inferInstanceAs (Decidable (_ ∨ _))

/-- Among the ASCII characters this is checked one by one. -/
lemma eq_of_isOuter_toLower {c : Char} (hc : c.toNat < 128) (h : IsOuter c.toLower) :
    c.toLower = c := by
  have hall : ∀ n < 128, IsOuter (Char.ofNat n).toLower →
      (Char.ofNat n).toLower = Char.ofNat n := by
    decide +kernel
  rw [← Char.ofNat_toNat c] at h ⊢
  exact hall c.toNat hc h

lemma eq_of_mem_lowerChar {c e : Char} (he : e ∈ lowerChar c) (h : IsOuter e) : e = c := by
  rw [lowerChar] at he
  split at he
  · next hascii =>
    obtain rfl := List.mem_singleton.mp he
    exact eq_of_isOuter_toLower hascii h
  · next hascii =>
    split at he
    · simp only [List.mem_cons, List.not_mem_nil, or_false] at he
      rcases he with rfl | rfl <;> exact absurd h (by decide)
    · obtain rfl := List.mem_singleton.mp he
      have hshift : shiftBy lowerRuns c.toNat = c.toNat := by
        rcases h with h | h
        · exact eq_of_isBlank_shiftBy h
        · refine (shiftBy_lowerRuns_cases c.toNat).resolve_right ?_
          rintro ⟨m, hm, hvalid, hletter, -⟩
          rw [hm] at h
          have hm' := toNat_ofNat hvalid
          rw [h] at hm'
          have : '"'.toNat = 34 := by decide
          omega
      rw [hshift, Char.ofNat_toNat]

/-! ### Texts -/

/-- The lower case of the first character of a text that goes on with `cs`. -/
def lowerIn (before : List Char) (c : Char) (cs : List Char) : List Char :=
  if c = 'Σ' then if meetsCased before && !meetsCased cs then ['ς'] else ['σ'] else lowerChar c

lemma lowerFrom_cons (before : List Char) (c : Char) (cs : List Char) :
    lowerFrom before (c :: cs) = lowerIn before c cs ++ lowerFrom (c :: before) cs := rfl

lemma length_lowerIn (before : List Char) (c : Char) (cs : List Char) :
    (lowerIn before c cs).length = (lowerChar c).length := by
  rw [lowerIn]
  split
  · next h =>
    subst h
    split <;> decide +kernel
  · rfl

lemma length_lowerChar_pos (c : Char) : 0 < (lowerChar c).length := by
  rw [lowerChar]
  split_ifs <;> simp

lemma eq_of_mem_lowerIn {before : List Char} {c e : Char} {cs : List Char}
    (he : e ∈ lowerIn before c cs) (h : IsOuter e) : e = c := by
  rw [lowerIn] at he
  split at he
  · split at he <;> obtain rfl := List.mem_singleton.mp he <;> exact absurd h (by decide)
  · exact eq_of_mem_lowerChar he h

lemma eq_of_head?_lowerFrom {before cs : List Char} {e : Char}
    (he : (lowerFrom before cs).head? = some e) (h : IsOuter e) : cs.head? = some e := by
  rcases cs with _ | ⟨c, cs⟩
  · cases he
  · have hne : lowerIn before c cs ≠ [] := by
      rw [← List.length_pos_iff, length_lowerIn]
      exact length_lowerChar_pos c
    rw [lowerFrom_cons, List.head?_append_of_ne_nil _ hne] at he
    rw [eq_of_mem_lowerIn (List.mem_of_head? he) h]
    rfl

lemma eq_of_getLast?_lowerFrom {before cs : List Char} {e : Char}
    (he : (lowerFrom before cs).getLast? = some e) (h : IsOuter e) : cs.getLast? = some e := by
  induction cs generalizing before with
  | nil => cases he
  | cons c cs ih =>
    rw [lowerFrom_cons, List.getLast?_append] at he
    rcases hl : (lowerFrom (c :: before) cs).getLast? with _ | d
    · -- nothing follows the character
      have hnil : cs = [] := by
        rcases cs with _ | ⟨d, ds⟩
        · rfl
        · have hlength := length_lowerChar_pos d
          rw [List.getLast?_eq_none_iff, lowerFrom_cons, List.append_eq_nil_iff,
            ← List.length_eq_zero_iff, length_lowerIn] at hl
          omega
      rw [hl, Option.none_or] at he
      rw [hnil, eq_of_mem_lowerIn (List.mem_of_getLast? he) h]
      rfl
    · rw [hl, Option.some_or, ← hl] at he
      rw [List.getLast?_cons, ih he]
      rfl

/-- Leaving characters out of a text shortens its lower case by as many at least. -/
lemma length_lowerFrom_le {ss cs : List Char} (h : ss.Sublist cs) (before before' : List Char) :
    (lowerFrom before ss).length + cs.length ≤ (lowerFrom before' cs).length + ss.length := by
  induction h generalizing before before' with
  | slnil => rfl
  | @cons ss cs c h ih =>
    have hpos := length_lowerChar_pos c
    have hrest := ih before (c :: before')
    rw [lowerFrom_cons, List.length_append, length_lowerIn, List.length_cons]
    omega
  | @cons_cons ss cs c h ih =>
    have hrest := ih (c :: before) (c :: before')
    rw [lowerFrom_cons, lowerFrom_cons, List.length_append, List.length_append, length_lowerIn,
      length_lowerIn, List.length_cons, List.length_cons]
    omega

end Text

namespace Identifier

variable {name : String}

/-! ### Names -/

instance (name : String) : Decidable (IsBare name) :=
  decidable_of_iff (Text.trimChars name.toList = name.toList ∧ unquote name.toList = name.toList)
    (and_congr_right' unquote_eq_self_iff)

/-- The normal form of a bare name is its lower case. -/
lemma IsBare.normalize_eq (h : IsBare name) : normalize name = Text.lower name := by
  rw [normalize, normalizeChars, h.1, unquote_eq_self_iff.mpr h.2]
  rfl

lemma IsBare.lower (h : IsBare name) : IsBare (Text.lower name) := by
  obtain ⟨htrim, hquote⟩ := h
  rw [Text.trimChars_eq_self_iff] at htrim
  rw [IsBare, Text.lower, String.toList_ofList, Text.trimChars_eq_self_iff]
  refine ⟨⟨fun c hc hb => ?_, fun c hc hb => ?_⟩, ?_⟩
  · exact htrim.1 c (Text.eq_of_head?_lowerFrom hc (.inl hb)) hb
  · exact htrim.2 c (Text.eq_of_getLast?_lowerFrom hc (.inl hb)) hb
  · rintro ⟨inner, hinner⟩
    have hhead : (Text.lowerFrom [] name.toList).head? = some '"' := by rw [hinner]; rfl
    have hlast : (Text.lowerFrom [] name.toList).getLast? = some '"' := by
      rw [hinner, List.getLast?_cons, List.getLast?_append]
      rfl
    obtain ⟨cs, hcs⟩ := List.head?_eq_some_iff.mp (Text.eq_of_head?_lowerFrom hhead (.inr rfl))
    have hend := Text.eq_of_getLast?_lowerFrom hlast (.inr rfl)
    rcases cs.eq_nil_or_concat with rfl | ⟨ds, d, rfl⟩
    · -- the name is a single quote
      rw [hcs] at hinner
      have hlength := congrArg List.length hinner
      simp [Text.lowerFrom, Text.lowerChar] at hlength
    · rw [hcs, List.concat_eq_append, ← List.cons_append, List.getLast?_concat] at hend
      cases hend
      exact hquote ⟨ds, by rw [hcs, List.concat_eq_append]⟩

/-- **Which names keep their meaning.** The normal form of the normal form of a name is its lower
case just when the name is bare. -/
theorem normalize_normalize_eq_lower_iff :
    normalize (normalize name) = Text.lower name ↔ IsBare name := by
  constructor
  · intro h
    let cs := unquote (Text.trimChars name.toList)
    have hsub : cs.Sublist name.toList := (unquote_sublist _).trans (Text.trimChars_sublist _)
    have hshort : (normalize (normalize name)).toList.length ≤ (normalize name).toList.length :=
      (normalize_sublist (isLowered_normalize name)).length_le
    have hlower : (normalize name).toList = Text.lowerFrom [] cs := by
      rw [normalize, String.toList_ofList, normalizeChars]
    have hlength := Text.length_lowerFrom_le hsub [] []
    rw [h, hlower, Text.lower, String.toList_ofList] at hshort
    have hcs : cs = name.toList := hsub.eq_of_length_le (by omega)
    have htrim : Text.trimChars name.toList = name.toList := by
      have hinner : cs.Sublist (Text.trimChars name.toList) := unquote_sublist _
      rw [hcs] at hinner
      exact (Text.trimChars_sublist _).antisymm hinner
    refine ⟨htrim, unquote_eq_self_iff.mp ?_⟩
    simpa [cs, htrim] using hcs
  · intro h
    rw [h.normalize_eq, normalize_eq_self_iff, ← h.normalize_eq]
    · rw [h.normalize_eq]
      exact h.lower
    · rw [← h.normalize_eq]
      exact isLowered_normalize name

end Identifier

end QueryGate
