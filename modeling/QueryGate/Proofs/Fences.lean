import QueryGate.Completion
import QueryGate.Proofs.Analyses

/-!
Keywords behind a fence. What stands directly behind the opening mark is taken for the name of a
language, on the same line too, and with it goes every word that begins there.
-/

namespace QueryGate

namespace Completion

/-- A text between two marks on its own line. -/
def fenced (body : String) : String := String.ofList (fence ++ body.toList ++ fence)

/-- What is left of a text behind the name of a language. -/
def behindTag (body : String) : String := String.ofList (body.toList.dropWhile isTag)

/-- The name of a language at the head of a text, with the rest of a word that goes on behind it. -/
def opening (body : String) : String :=
  String.ofList (body.toList.takeWhile isTag ++
    (body.toList.dropWhile isTag).takeWhile Text.isWordChar)

lemma inner_fence (cs : List Char) : inner (fence ++ cs ++ fence) = cs := by
  have hlength : (fence ++ cs ++ fence).length - 2 * fence.length = cs.length := by
    simp only [List.length_append]
    omega
  rw [inner, hlength, List.append_assoc, List.drop_left, List.take_left]

lemma isFenced_fence (cs : List Char) : isFenced (fence ++ cs ++ fence) = true := by
  simp only [isFenced, Bool.and_eq_true, decide_eq_true_eq, List.isPrefixOf_iff_prefix,
    List.isSuffixOf_iff_suffix]
  refine ⟨⟨?_, ?_⟩, List.suffix_append _ _⟩
  · simp only [List.length_append]
    omega
  · rw [List.append_assoc]
    exact List.prefix_append _ _

lemma trimChars_fence (cs : List Char) :
    Text.trimChars (fence ++ cs ++ fence) = fence ++ cs ++ fence := by
  have hmark : ∀ c, c = '`' → ¬ Text.isBlank c = true := by
    rintro c rfl
    decide
  refine Text.trimChars_eq_self (fun c hc => hmark c ?_) fun c hc => hmark c ?_
  · simpa [fence, eq_comm] using hc
  · rw [List.getLast?_append] at hc
    simpa [fence, eq_comm] using hc

/-- What is kept of a text that is fenced when it is trimmed. -/
lemma unfence_of_trimChars {cs ds : List Char} (h : Text.trimChars cs = fence ++ ds ++ fence) :
    unfence cs = Text.trimChars (ds.dropWhile isTag) := by
  rw [unfence, h, if_pos (isFenced_fence ds), inner_fence]

/-- The name of a language is taken off whatever follows it. -/
lemma statement_fenced (body : String) :
    statement (fenced body) = Text.trim (behindTag body) := by
  rw [statement, fenced, String.toList_ofList, unfence_of_trimChars (trimChars_fence body.toList),
    Text.trim, behindTag, String.toList_ofList]

/-- Every word begins in the opening of a text or behind it. -/
lemma wordRuns_eq_opening_append (body : String) :
    Text.wordRuns body.toList = Text.wordRuns (opening body).toList ++
      Text.wordRuns ((body.toList.dropWhile isTag).dropWhile Text.isWordChar) := by
  rw [opening, String.toList_ofList,
    ← Text.wordRuns_append _ (Text.not_wordChar_of_dropWhile _), List.append_assoc,
    List.takeWhile_append_dropWhile, List.takeWhile_append_dropWhile]

/-- A word that begins behind the opening stands behind the tag as it is. -/
lemma mem_wordRuns_behindTag {body : String} {run : List Char}
    (h : run ∈ Text.wordRuns ((body.toList.dropWhile isTag).dropWhile Text.isWordChar)) :
    run ∈ Text.wordRuns (behindTag body).toList := by
  rw [behindTag, String.toList_ofList,
    ← List.takeWhile_append_dropWhile (p := Text.isWordChar) (l := body.toList.dropWhile isTag),
    Text.wordRuns_append _ (Text.not_wordChar_of_dropWhile _)]
  exact List.mem_append_right _ h

/-- **Which keywords a fence hides.** A fenced text keeps all its keywords just when each keyword
among the words that begin in the name of its language is also a word of what follows that name. -/
theorem matched_subset_fenced_iff (p : Hazard.Policy) (body : String) :
    (p.report body).matched ⊆ (p.report (statement (fenced body))).matched ↔
      (p.report (opening body)).matched ⊆ (p.report (behindTag body)).matched := by
  have hmem (k : String) : k ∈ (p.report (statement (fenced body))).matched ↔
      k ∈ (p.report (behindTag body)).matched := by
    rw [statement_fenced, Hazard.Policy.mem_matched_iff, Hazard.Policy.mem_matched_iff, Text.trim,
      String.toList_ofList, Text.wordRuns_trimChars]
  constructor
  · intro h k hk
    obtain ⟨hkey, run, hrun, hfold⟩ := Hazard.Policy.mem_matched_iff.mp hk
    refine (hmem k).mp (h (Hazard.Policy.mem_matched_iff.mpr ⟨hkey, run, ?_, hfold⟩))
    rw [wordRuns_eq_opening_append]
    exact List.mem_append_left _ hrun
  · intro h k hk
    obtain ⟨hkey, run, hrun, hfold⟩ := Hazard.Policy.mem_matched_iff.mp hk
    rw [wordRuns_eq_opening_append, List.mem_append] at hrun
    refine (hmem k).mpr ?_
    rcases hrun with hrun | hrun
    · exact h (Hazard.Policy.mem_matched_iff.mpr ⟨hkey, run, hrun, hfold⟩)
    · exact Hazard.Policy.mem_matched_iff.mpr ⟨hkey, run, mem_wordRuns_behindTag hrun, hfold⟩

/-- The first word of a fenced statement is taken for the name of its language. -/
theorem exists_keyword_hidden : ¬ ∀ (p : Hazard.Policy) (body : String),
    '\n' ∉ body.toList → '`' ∉ body.toList →
      (p.report body).matched ⊆ (p.report (statement (fenced body))).matched := by
  intro h
  have hlost := h .standard "DROP TABLE users" (by decide) (by decide)
  rw [statement_fenced] at hlost
  have hmatched : "DROP" ∈ (Hazard.Policy.standard.report "DROP TABLE users").matched := by
    decide +kernel
  have hnone : "DROP" ∉
      (Hazard.Policy.standard.report (Text.trim (behindTag "DROP TABLE users"))).matched := by
    decide +kernel
  exact hnone (hlost hmatched)

end Completion

end QueryGate
