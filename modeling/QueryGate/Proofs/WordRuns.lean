import QueryGate.Proofs.Statements
import QueryGate.Text.WordChar

/-!
The words of a text are its maximal runs of word characters. Neither white space nor a semicolon is
part of a word, so splitting a script into statements keeps all its words.
-/

namespace QueryGate

namespace Text

/-- A part of a text that is made of word characters and stands between others. -/
structure IsWordRun (cs run : List Char) : Prop where
  ne_nil : run ≠ []
  word : ∀ c ∈ run, isWordChar c = true
  maximal : ∃ before after, cs = before ++ run ++ after ∧
    (∀ c ∈ before.getLast?, isWordChar c = false) ∧ ∀ c ∈ after.head?, isWordChar c = false

lemma wordRuns_cons_of_not {c : Char} (h : isWordChar c = false) (cs : List Char) :
    wordRuns (c :: cs) = wordRuns cs := by
  rw [wordRuns, h]
  rfl

lemma wordRuns_run {run after : List Char} (hne : run ≠ [])
    (hr : ∀ c ∈ run, isWordChar c = true) (ha : ∀ c ∈ after.head?, isWordChar c = false) :
    wordRuns (run ++ after) = run :: wordRuns after := by
  obtain ⟨c, cs, rfl⟩ := List.exists_cons_of_ne_nil hne
  have hcs : ∀ x ∈ cs, isWordChar x = true := fun x hx => hr x (List.mem_cons_of_mem _ hx)
  obtain ⟨htake, hdrop⟩ := run_append hcs ha
  rw [List.cons_append, wordRuns, if_pos (hr c List.mem_cons_self), htake, hdrop]

lemma not_wordChar_of_dropWhile (cs : List Char) :
    ∀ c ∈ (cs.dropWhile isWordChar).head?, isWordChar c = false := by
  intro c hc
  have := List.head?_dropWhile_not isWordChar cs
  rw [Option.mem_def.mp hc] at this
  simpa using this

/-- Every text is a run of word characters, which may be empty, and a rest that begins otherwise. -/
lemma exists_run_append (cs : List Char) :
    ∃ run after, cs = run ++ after ∧ (∀ c ∈ run, isWordChar c = true) ∧
      ∀ c ∈ after.head?, isWordChar c = false :=
  ⟨cs.takeWhile isWordChar, cs.dropWhile isWordChar, List.takeWhile_append_dropWhile.symm,
    List.all_eq_true.mp List.all_takeWhile, not_wordChar_of_dropWhile cs⟩

lemma wordRuns_append_cons {x : Char} (hx : isWordChar x = false) (a b : List Char) :
    wordRuns (a ++ x :: b) = wordRuns a ++ wordRuns b := by
  induction hn : a.length using Nat.strongRecOn generalizing a with
  | _ n ih =>
    subst hn
    obtain ⟨run, after, rfl, hr, ha⟩ := exists_run_append a
    have hrest : wordRuns (after ++ x :: b) = wordRuns after ++ wordRuns b := by
      rcases after with _ | ⟨c, after⟩
      · simp [wordRuns_cons_of_not hx, wordRuns]
      · have hc := ha c rfl
        rw [List.cons_append, wordRuns_cons_of_not hc, wordRuns_cons_of_not hc]
        exact ih _ (by simp; omega) _ rfl
    rcases List.eq_nil_or_concat run with rfl | ⟨run', c, rfl⟩
    · simpa using hrest
    have hne : run'.concat c ≠ [] := by simp
    rw [List.append_assoc, wordRuns_run hne hr ha, wordRuns_run hne hr, hrest, List.cons_append]
    rcases after with _ | ⟨y, after⟩
    · simpa using hx
    · simpa using ha y rfl

/-- A text may be cut wherever no word goes on. -/
lemma wordRuns_append (a : List Char) {b : List Char}
    (hb : ∀ c ∈ b.head?, isWordChar c = false) :
    wordRuns (a ++ b) = wordRuns a ++ wordRuns b := by
  rcases b with _ | ⟨c, b⟩
  · simp [wordRuns]
  · have hc := hb c rfl
    rw [wordRuns_append_cons hc, wordRuns_cons_of_not hc]

lemma IsWordRun.mem {cs run : List Char} (h : IsWordRun cs run) : run ∈ wordRuns cs := by
  obtain ⟨hne, hr, before, after, rfl, hb, ha⟩ := h
  have hrun : run ∈ wordRuns (run ++ after) := by
    rw [wordRuns_run hne hr ha]
    exact List.mem_cons_self
  rcases List.eq_nil_or_concat before with rfl | ⟨before, c, rfl⟩
  · exact hrun
  · rw [List.concat_eq_append, List.append_assoc, List.append_assoc, List.singleton_append,
      wordRuns_append_cons (hb c (by simp))]
    exact List.mem_append_right _ hrun

lemma isWordRun_of_mem {cs run : List Char} (h : run ∈ wordRuns cs) : IsWordRun cs run := by
  induction hn : cs.length using Nat.strongRecOn generalizing cs with
  | _ n ih =>
    subst hn
    obtain ⟨first, after, rfl, hf, ha⟩ := exists_run_append cs
    -- a run of what follows the first run is a run of the whole text
    have hlater : ∀ c after', after = c :: after' → run ∈ wordRuns after' →
        IsWordRun (first ++ after) run := by
      rintro c after' rfl hrun
      obtain ⟨hne, hr, b, a, rfl, hb, ha'⟩ := ih _ (by simp; omega) hrun rfl
      refine ⟨hne, hr, first ++ c :: b, a, by simp, fun x hx => ?_, ha'⟩
      rw [List.getLast?_append, List.getLast?_cons] at hx
      rcases hl : b.getLast? with _ | y
      · simp only [hl, Option.getD_none, Option.some_or] at hx
        exact ha x hx
      · simp only [hl, Option.getD_some, Option.some_or] at hx
        exact hb x (hl.trans hx)
    have hafter : run ∈ wordRuns after → IsWordRun (first ++ after) run := by
      rcases after with _ | ⟨c, after'⟩
      · simp [wordRuns]
      · rw [wordRuns_cons_of_not (ha c rfl)]
        exact hlater c after' rfl
    by_cases hne : first = []
    · subst hne
      exact hafter h
    rw [wordRuns_run hne hf ha, List.mem_cons] at h
    rcases h with rfl | h
    · exact ⟨hne, hf, [], after, rfl, by simp, ha⟩
    · exact hafter h

/-- **The words of a text are its maximal runs of word characters.** -/
theorem mem_wordRuns_iff {cs run : List Char} : run ∈ wordRuns cs ↔ IsWordRun cs run :=
  ⟨isWordRun_of_mem, IsWordRun.mem⟩

/-! ### White space -/

def blankRanges : List (Nat × Nat) :=
  [(0x9, 0xD), (0x20, 0x20), (0x85, 0x85), (0xA0, 0xA0), (0x1680, 0x1680), (0x2000, 0x200A),
    (0x2028, 0x2029), (0x202F, 0x202F), (0x205F, 0x205F), (0x3000, 0x3000)]

lemma inRanges_blankRanges {c : Char} (h : isBlank c = true) :
    inRanges blankRanges c.toNat = true := by
  simp only [isBlank, Bool.or_eq_true, Bool.and_eq_true, decide_eq_true_eq, beq_iff_eq] at h
  simp only [inRanges, blankRanges, List.any_cons, List.any_nil, Bool.or_eq_true,
    Bool.and_eq_true, decide_eq_true_eq]
  omega

/-- Whether no range of the first table meets one of the second. -/
def apart (rs ss : List (Nat × Nat)) : Bool :=
  rs.all fun r => ss.all fun s => Nat.blt r.2 s.1 || Nat.blt s.2 r.1

lemma not_inRanges_of_apart {rs ss : List (Nat × Nat)} (h : apart rs ss = true) {n : Nat}
    (hr : inRanges rs n = true) : inRanges ss n = false := by
  simp only [inRanges, List.any_eq_true, Bool.and_eq_true, decide_eq_true_eq] at hr
  obtain ⟨r, hr, h1, h2⟩ := hr
  simp only [inRanges, List.any_eq_false, Bool.and_eq_true, decide_eq_true_eq]
  intro s hs
  have := List.all_eq_true.mp (List.all_eq_true.mp h r hr) s hs
  simp only [Bool.or_eq_true, Nat.blt_eq] at this
  omega

lemma isWordChar_of_isBlank {c : Char} (h : isBlank c = true) : isWordChar c = false := by
  have hc := inRanges_blankRanges h
  have happart : apart blankRanges wordRanges = true := by decide +kernel
  rw [isWordChar]
  split
  · exact Bool.eq_false_iff.mpr ((Lexeme.isDelimiter_of_blank h).not_tagChar)
  · exact not_inRanges_of_apart happart hc

lemma wordRuns_trimStart (cs : List Char) : wordRuns (trimStart cs) = wordRuns cs := by
  induction cs with
  | nil => rfl
  | cons c cs ih =>
    by_cases hc : isBlank c = true
    · rw [trimStart_cons_blank hc, ih, wordRuns_cons_of_not (isWordChar_of_isBlank hc)]
    · rw [trimStart, List.dropWhile_cons_of_neg hc]

lemma wordRuns_trimEnd (cs : List Char) : wordRuns (trimEnd cs) = wordRuns cs := by
  induction cs using List.reverseRecOn with
  | nil => rfl
  | append_singleton cs c ih =>
    by_cases hc : isBlank c = true
    · rw [trimEnd_snoc_blank hc, ih, wordRuns_append_cons (isWordChar_of_isBlank hc)]
      simp [wordRuns]
    · simp [trimEnd, hc]

lemma wordRuns_trimChars (cs : List Char) : wordRuns (trimChars cs) = wordRuns cs := by
  rw [trimChars, wordRuns_trimEnd, wordRuns_trimStart]

end Text

namespace Script

lemma wordRuns_intercalate (parts : List (List Char)) :
    Text.wordRuns ([';'].intercalate parts) = parts.flatMap Text.wordRuns := by
  have hsemi : Text.isWordChar ';' = false := by decide
  induction parts with
  | nil => simp [Text.wordRuns]
  | cons part parts ih =>
    rcases parts with _ | ⟨next, parts⟩
    · simp
    · rw [List.intercalate_cons_cons, List.append_assoc, List.singleton_append,
        Text.wordRuns_append_cons hsemi, ih, ← List.flatMap_cons]

/-- **Splitting a script keeps its words.** -/
theorem wordRuns_split (script : String) :
    (split script).flatMap (fun t => Text.wordRuns t.toList) = Text.wordRuns script.toList := by
  have hs := Layout.toChars_eq_intercalate (Layout.lexed_ofChars script.toList)
  rw [Layout.toChars_ofChars] at hs
  have hnil : Text.wordRuns [] = [] := by rw [Text.wordRuns]
  rw [flatMap_toList_split hnil]
  simp only [Text.wordRuns_trimChars]
  rw [Layout.ofText, ← List.flatMap_map (f := Layout.toChars) (g := Text.wordRuns),
    ← wordRuns_intercalate, ← hs]

end Script

end QueryGate
