import QueryGate.Proofs.Fences
import QueryGate.Proofs.Patterns

/-!
The statement in an answer. A fence can be matched as a pattern in many ways when its text holds
marks and line breaks, but the name of the language is always taken first, and all that a way may
leave out of the text behind it is white space at its ends.
-/

namespace QueryGate

namespace Text

lemma trimChars_blanks {w w' : List Char} (hw : ∀ c ∈ w, isBlank c = true)
    (hw' : ∀ c ∈ w', isBlank c = true) (cs : List Char) :
    trimChars (w ++ cs ++ w') = trimChars cs := by
  induction w with
  | nil =>
    rw [List.nil_append]
    induction w' using List.reverseRecOn with
    | nil => rw [List.append_nil]
    | append_singleton w' c ih =>
      rw [← List.append_assoc, trimChars_snoc_blank (hw' c (by simp)),
        ih fun d hd => hw' d (List.mem_append_left _ hd)]
  | cons c w ih =>
    obtain ⟨hc, hw⟩ := List.forall_mem_cons.mp hw
    rw [List.cons_append, List.cons_append, trimChars_cons_blank hc, ih hw]

/-- What is trimmed off a text. -/
lemma exists_trimChars (cs : List Char) : ∃ w, trimChars cs ++ w = cs.dropWhile isBlank ∧
    ∀ c ∈ w, isBlank c = true :=
  trimEnd_append (trimStart cs)

end Text

namespace Completion

open Pattern

/-- White space within a line. -/
def isInline (c : Char) : Bool := c = ' ' || c = '\t'

def lineEnd : Pattern := .seq (.optional '\r') (.optional '\n')

/-- What follows the name of the language. -/
def afterTag : Pattern :=
  .all [.many isInline, lineEnd, .group (.few fun _ => true), lineEnd, .literal fence,
    .many Text.isBlank, .stop]

/-- A fence around all of the text that follows. -/
def aroundRest : Pattern :=
  .seq (.many Text.isBlank) (.seq (.literal fence) (.seq (.many isTag) afterTag))

/-- A fence around a whole text. -/
def fencePattern : Pattern := .seq .start aroundRest

lemma eq_fence_of_isFenced {cs : List Char} (h : isFenced cs = true) :
    ∃ ds, cs = fence ++ ds ++ fence := by
  simp only [isFenced, Bool.and_eq_true, decide_eq_true_eq, List.isPrefixOf_iff_prefix,
    List.isSuffixOf_iff_suffix] at h
  obtain ⟨⟨hlength, ⟨ds, rfl⟩⟩, hsuffix⟩ := h
  have hle : fence.length ≤ ds.length := by
    rw [List.length_append] at hlength
    omega
  obtain ⟨ds, rfl⟩ := List.suffix_of_suffix_length_le hsuffix (List.suffix_append fence ds) hle
  exact ⟨ds, (List.append_assoc ..).symm⟩

/-- The last mark of a text that white space follows. -/
lemma append_fence_inj {as bs w w' : List Char} (hw : ∀ c ∈ w, Text.isBlank c = true)
    (hw' : ∀ c ∈ w', Text.isBlank c = true) (h : as ++ fence ++ w = bs ++ fence ++ w') :
    as = bs := by
  have htrim (ds : List Char) {v : List Char} (hv : ∀ c ∈ v, Text.isBlank c = true) :
      Text.trimChars (fence ++ (ds ++ fence ++ v)) = fence ++ ds ++ fence := by
    have := Text.trimChars_blanks (w := []) (by simp) hv (fence ++ ds ++ fence)
    rw [trimChars_fence] at this
    simpa using this
  have := htrim as hw
  rw [h, htrim bs hw'] at this
  simpa using this.symm

/-! ### Ways to match -/

lemma takes_lineEnd : lineEnd.Takes fun cs =>
    ∃ as bs, cs = as ++ bs ∧ (as = ['\r'] ∨ as = []) ∧ (bs = ['\n'] ∨ bs = []) :=
  takes_optional.seq takes_optional

lemma blank_of_lineEnd {cs : List Char}
    (h : ∃ as bs, cs = as ++ bs ∧ (as = ['\r'] ∨ as = []) ∧ (bs = ['\n'] ∨ bs = [])) :
    ∀ c ∈ cs, Text.isBlank c = true := by
  obtain ⟨as, bs, rfl, rfl | rfl, rfl | rfl⟩ := h <;> exact List.all_eq_true.mp (by decide)

lemma blank_of_isInline {cs : List Char} (h : ∀ c ∈ cs, isInline c = true) :
    ∀ c ∈ cs, Text.isBlank c = true := by
  intro c hc
  have := h c hc
  simp only [isInline, Bool.or_eq_true, decide_eq_true_eq] at this
  rcases this with rfl | rfl <;> decide

variable {p q : Place}

/-- Whichever way the rest of a fence matches, it leaves out no more than white space. -/
lemma exists_of_mem_afterTag (h : q ∈ afterTag.run p) : ∃ w kept w' w'',
    p.rest = w ++ kept ++ w' ++ fence ++ w'' ∧ (∀ c ∈ w, Text.isBlank c = true) ∧
      (∀ c ∈ w', Text.isBlank c = true) ∧ (∀ c ∈ w'', Text.isBlank c = true) ∧
      q.group = kept := by
  simp only [afterTag, mem_run_all_cons] at h
  obtain ⟨_, h1, _, h2, _, h3, _, h4, _, h5, _, h6, _, h7, h8⟩ := h
  obtain ⟨a, r1, e1, ha, rfl⟩ := (takes_many _ _).mp h1
  obtain ⟨b, r2, e2, hb, rfl⟩ := (takes_lineEnd _ _).mp h2
  obtain ⟨kept, r3, e3, -, rfl⟩ := takes_few.mem_run_group.mp h3
  obtain ⟨b', r4, e4, hb', rfl⟩ := (takes_lineEnd _ _).mp h4
  obtain ⟨_, r5, e5, rfl, rfl⟩ := (takes_literal _ _ _).mp h5
  obtain ⟨w, r6, e6, hw, rfl⟩ := (takes_many _ _).mp h6
  obtain ⟨hstop, rfl⟩ := mem_run_stop.mp h7
  obtain rfl := List.mem_singleton.mp h8
  refine ⟨a ++ b, kept, b', w, ?_, ?_, blank_of_lineEnd hb', hw, rfl⟩
  · simp only [Place.behind] at e2 e3 e4 e5 e6 hstop
    simp [e1, e2, e3, e4, e5, e6, hstop]
  · exact List.forall_mem_append.mpr ⟨blank_of_isInline ha, blank_of_lineEnd hb⟩

lemma exists_mem_afterTag {body w : List Char} (hp : p.rest = body ++ fence ++ w)
    (hw : ∀ c ∈ w, Text.isBlank c = true) : ∃ q, q ∈ afterTag.run p := by
  simp only [afterTag, mem_run_all_cons]
  have hend (p : Place) : p ∈ lineEnd.run p :=
    takes_lineEnd.mem_run_self ⟨[], [], rfl, .inr rfl, .inr rfl⟩
  rw [List.append_assoc] at hp
  exact ⟨_, p, takes_many.mem_run_self (by simp), p, hend p,
    _, takes_few.mem_run_group.mpr ⟨body, fence ++ w, hp, by simp, rfl⟩, _, hend _,
    _, (takes_literal _ _ _).mpr ⟨fence, w, rfl, rfl, rfl⟩,
    _, (takes_many _ _).mpr ⟨w, [], (List.append_nil w).symm, hw, rfl⟩,
    _, mem_run_stop.mpr ⟨rfl, rfl⟩, List.mem_singleton.mpr rfl⟩

/-! ### The first way -/

lemma dropWhile_isTag_fence (ds rest : List Char) :
    (ds ++ fence ++ rest).dropWhile isTag = ds.dropWhile isTag ++ fence ++ rest := by
  have hfence : (fence ++ rest).dropWhile isTag = fence ++ rest :=
    List.dropWhile_cons_of_neg (by decide)
  rw [List.append_assoc, List.dropWhile_append, hfence, List.append_assoc]
  split
  · next h => rw [List.isEmpty_iff.mp h, List.nil_append]
  · rfl

/-- The fence around a text is taken off as a pattern takes it. -/
lemma captured?_of_fenced {cs ds : List Char} (h : Text.trimChars cs = fence ++ ds ++ fence) :
    ∃ kept, fencePattern.captured? none cs = some kept ∧
      Text.trimChars kept = Text.trimChars (ds.dropWhile isTag) := by
  obtain ⟨w, hw, hblank⟩ := Text.exists_trimChars cs
  rw [h, List.append_assoc, List.append_assoc] at hw
  rw [fencePattern, captured?_start]
  -- the white space, the mark and the name are what comes first, so the rest of the way is
  -- looked for behind them
  obtain ⟨p, hp, hrest⟩ : ∃ p, p.rest = ds.dropWhile isTag ++ fence ++ w ∧
      ∀ q, afterTag.first? p = some q → aroundRest.first? ⟨none, cs, []⟩ = some q := by
    refine ⟨_, ?_, fun q hq => first?_seq first?_many (first?_seq (first?_literal hw.symm)
      (first?_seq first?_many hq))⟩
    simp only [Place.behind]
    rw [← List.append_assoc, dropWhile_isTag_fence]
  obtain ⟨q, hq⟩ := Option.ne_none_iff_exists'.mp fun hnone =>
    (exists_mem_afterTag hp hblank).elim (first?_eq_none_iff.mp hnone)
  obtain ⟨v, kept, v', v'', e, hv, hv', hv'', hkept⟩ :=
    exists_of_mem_afterTag (List.mem_of_head? hq)
  have hbody : ds.dropWhile isTag = v ++ kept ++ v' :=
    append_fence_inj hblank hv'' (hp.symm.trans e)
  refine ⟨kept, by rw [hrest q hq, Option.map_some, hkept], ?_⟩
  rw [hbody, Text.trimChars_blanks hv hv']

lemma isFenced_of_mem {cs : List Char} {q : Place} (hq : q ∈ aroundRest.run ⟨none, cs, []⟩) :
    isFenced (Text.trimChars cs) = true := by
  simp only [aroundRest, mem_run_seq] at hq
  obtain ⟨_, h2, _, h3, _, h4, h5⟩ := hq
  obtain ⟨a, r2, e2, ha, rfl⟩ := (takes_many _ _).mp h2
  obtain ⟨_, r3, e3, rfl, rfl⟩ := (takes_literal _ _ _).mp h3
  obtain ⟨tag, r4, e4, -, rfl⟩ := (takes_many _ _).mp h4
  obtain ⟨w, kept, w', w'', e5, -, -, hw, -⟩ := exists_of_mem_afterTag h5
  have hcs : cs = a ++ (fence ++ (tag ++ w ++ kept ++ w') ++ fence) ++ w'' := by
    simp only [Place.behind] at e2 e3 e4 e5
    simp [e2, e3, e4, e5]
  rw [hcs, Text.trimChars_blanks ha hw, trimChars_fence]
  exact isFenced_fence _

lemma unfence_eq_trimChars (cs : List Char) :
    unfence cs = Text.trimChars ((fencePattern.captured? none cs).getD cs) := by
  by_cases h : isFenced (Text.trimChars cs) = true
  · obtain ⟨ds, hds⟩ := eq_fence_of_isFenced h
    obtain ⟨kept, hkept, htrim⟩ := captured?_of_fenced hds
    rw [unfence_of_trimChars hds, hkept, Option.getD_some, htrim]
  · have hnone : aroundRest.first? ⟨none, cs, []⟩ = none :=
      first?_eq_none_iff.mpr fun q hq => h (isFenced_of_mem hq)
    rw [fencePattern, captured?_start, hnone, Option.map_none, Option.getD_none, unfence, if_neg h]

/-- The statement of an answer whose trimmed text is fenced. -/
lemma statement_of_lines {before tag body after : List Char}
    (hbefore : ∀ c ∈ before, Text.isBlank c = true) (htag : ∀ c ∈ tag, isTag c = true)
    (hafter : ∀ c ∈ after, Text.isBlank c = true) :
    unfence (before ++ (fence ++ (tag ++ ['\n'] ++ body ++ ['\n']) ++ fence) ++ after) =
      Text.trimChars body := by
  have hbreak : ∀ c ∈ ['\n'], Text.isBlank c = true := List.all_eq_true.mp (by decide)
  have hname : (tag ++ ['\n'] ++ body ++ ['\n']).dropWhile isTag = ['\n'] ++ body ++ ['\n'] := by
    rw [List.append_assoc, List.append_assoc, List.dropWhile_append_of_pos htag,
      ← List.append_assoc]
    exact List.dropWhile_cons_of_neg (by decide)
  rw [unfence_of_trimChars (by rw [Text.trimChars_blanks hbefore hafter, trimChars_fence]), hname,
    Text.trimChars_blanks hbreak hbreak]

/-- **What is left of an answer.** A fence on lines of its own is taken off whatever text it is
around, and the text is trimmed. An answer that is not fenced is only trimmed. In every case the
statement is what the fence as a pattern captures, trimmed. -/
theorem statement_answer :
    (∀ before tag body after : String, (∀ c ∈ before.toList, Text.isBlank c = true) →
      (∀ c ∈ tag.toList, isTag c = true) → (∀ c ∈ after.toList, Text.isBlank c = true) →
      statement (before ++ "```" ++ tag ++ "\n" ++ body ++ "\n```" ++ after) = Text.trim body) ∧
    (∀ answer : String, ¬ (fence <+: (Text.trim answer).toList ∧
        fence <:+ (Text.trim answer).toList) ∨ (Text.trim answer).length < 6 →
      statement answer = Text.trim answer) ∧
    ∀ answer : String, statement answer =
      Text.trim (((fencePattern.captured? none answer.toList).map String.ofList).getD answer) := by
  refine ⟨fun before tag body after hbefore htag hafter => ?_, fun answer h => ?_,
    fun answer => ?_⟩
  · have hlines : (before ++ "```" ++ tag ++ "\n" ++ body ++ "\n```" ++ after).toList =
        before.toList ++ (fence ++ (tag.toList ++ ['\n'] ++ body.toList ++ ['\n']) ++ fence) ++
          after.toList := by
      simp [fence]
    rw [statement, hlines, statement_of_lines hbefore htag hafter, Text.trim]
  · have hnot : ¬ isFenced (Text.trimChars answer.toList) = true := by
      intro hfenced
      simp only [isFenced, Bool.and_eq_true, decide_eq_true_eq, List.isPrefixOf_iff_prefix,
        List.isSuffixOf_iff_suffix, ← Text.toList_trim] at hfenced
      obtain ⟨⟨hlength, hopens⟩, hcloses⟩ := hfenced
      rcases h with h | h
      · exact h ⟨hopens, hcloses⟩
      · rw [← String.length_toList] at h
        exact absurd hlength (Nat.not_le.mpr h)
    rw [statement, unfence, if_neg hnot, Text.trim]
  · rw [statement, unfence_eq_trimChars, Text.trim]
    cases fencePattern.captured? none answer.toList <;> simp

/-- A body that has marks on lines of their own, and breaks lines in another way. -/
theorem statement_answer_nested :
    (∀ c ∈ " \n".toList, Text.isBlank c = true) ∧ (∀ c ∈ "sql-92".toList, isTag c = true) ∧
      statement (" \n" ++ "```" ++ "sql-92" ++ "\n" ++ "\r\n```\nSELECT 1\r\n```\n`" ++ "\n```" ++
        "") = Text.trim "\r\n```\nSELECT 1\r\n```\n`" := by
  have hbefore : ∀ c ∈ " \n".toList, Text.isBlank c = true := List.all_eq_true.mp (by decide)
  have htag : ∀ c ∈ "sql-92".toList, isTag c = true := List.all_eq_true.mp (by decide)
  exact ⟨hbefore, htag, statement_answer.1 _ _ _ "" hbefore htag (by simp)⟩

end Completion

end QueryGate
