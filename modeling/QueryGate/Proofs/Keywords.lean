import QueryGate.Proofs.Analyses
import QueryGate.Proofs.Letters
import QueryGate.Proofs.Patterns
import QueryGate.Proofs.Results

/-!
The keywords that a policy takes, and where they are found. A search for any of them as a whole
word, in either case, finds just the keywords that a report names.
-/

namespace QueryGate.Hazard

/-- A keyword as a policy keeps it. -/
def spelling (raw : String) : String := Text.upper (Text.trim raw)

def IsPlain (k : String) : Prop := k ≠ "" ∧ ∀ c ∈ k.toList, isKeywordChar c = true

instance (k : String) : Decidable (IsPlain k) :=
  decidable_of_iff (k ≠ "" ∧ k.toList.all isKeywordChar = true) (by rw [IsPlain, List.all_eq_true])

/-- A text whose words have a keyword among them. -/
def Occurs (sql k : String) : Prop := ∃ run, Text.IsWordRun sql.toList run ∧ fold run = k.toList

lemma occurs_iff {sql k : String} :
    Occurs sql k ↔ ∃ run ∈ Text.wordRuns sql.toList, fold run = k.toList := by
  simp only [Occurs, Text.mem_wordRuns_iff]

instance (sql k : String) : Decidable (Occurs sql k) := decidable_of_iff' _ occurs_iff

/-! ### Policies -/

lemma keyword_eq (raw : String) : keyword raw =
    if IsPlain (spelling raw) then .ok (spelling raw)
    else .error (.invalidKeyword (spelling raw)) := by
  have hbad : ((spelling raw).isEmpty || !(spelling raw).toList.all isKeywordChar) = true ↔
      ¬ IsPlain (spelling raw) := by
    rw [IsPlain]
    simp [imp_iff_not_or]
  have hkeyword : keyword raw =
      if (spelling raw).isEmpty || !(spelling raw).toList.all isKeywordChar then
        .error (.invalidKeyword (spelling raw))
      else .ok (spelling raw) := rfl
  simp only [hkeyword, hbad, ite_not]

lemma foldl_addNew (ks : List String) : ks.foldl addNew [] = ks.eraseDups := by
  induction ks using List.reverseRecOn with
  | nil => rfl
  | append_singleton ks k ih =>
    rw [List.foldl_append, ih, List.foldl_cons, List.foldl_nil, addNew,
      OrderedMap.eraseDups_concat]

lemma eraseDups_eq_nil_iff {ks : List String} : ks.eraseDups = [] ↔ ks = [] := by
  simp only [List.eq_nil_iff_forall_not_mem, List.mem_eraseDups]

lemma mapM_keyword_eq_ok_iff {raws ks : List String} : raws.mapM keyword = .ok ks ↔
    (∀ raw ∈ raws, IsPlain (spelling raw)) ∧ ks = raws.map spelling := by
  have hkeyword (raw k : String) :
      keyword raw = .ok k ↔ IsPlain (spelling raw) ∧ spelling raw = k := by
    rw [keyword_eq]
    split <;> simp [*]
  simp only [mapM_eq_ok_iff, hkeyword, List.forall₂_and_left]
  rw [← List.forall₂_map_left_iff, List.forall₂_eq_eq_eq, eq_comm]

namespace Policy

/-- The keywords of a policy are those it is given, each of them once. -/
lemma ofList_eq_ok_iff {raws : List String} {p : Policy} : ofList raws = .ok p ↔
    raws ≠ [] ∧ (∀ raw ∈ raws, IsPlain (spelling raw)) ∧
      p.keywords = (raws.map spelling).eraseDups := by
  rw [ofList, bind_eq_ok_iff]
  simp only [mapM_keyword_eq_ok_iff, foldl_addNew]
  constructor
  · rintro ⟨_, ⟨hplain, rfl⟩, h⟩
    split at h
    · cases h
    · next hne =>
      cases h
      exact ⟨by simpa [eraseDups_eq_nil_iff] using hne, hplain, rfl⟩
  · rintro ⟨hne, hplain, hkeywords⟩
    refine ⟨_, ⟨hplain, rfl⟩, ?_⟩
    rw [dif_neg (by simpa [eraseDups_eq_nil_iff] using hne)]
    rcases p with ⟨keywords, hnil, hnodup⟩
    obtain rfl : keywords = _ := hkeywords
    rfl

lemma exists_ofList_iff {raws : List String} : (∃ p, ofList raws = .ok p) ↔
    raws ≠ [] ∧ ∀ raw ∈ raws, IsPlain (spelling raw) := by
  simp only [ofList_eq_ok_iff]
  refine ⟨fun ⟨_, hne, hplain, _⟩ => ⟨hne, hplain⟩, fun ⟨hne, hplain⟩ => ?_⟩
  refine ⟨⟨(raws.map spelling).eraseDups, ?_, ?_⟩, hne, hplain, rfl⟩
  · rwa [ne_eq, eraseDups_eq_nil_iff, List.map_eq_nil_iff]
  · rw [← foldl_addNew]
    exact nodup_foldl_addNew _ [] List.nodup_nil

lemma isPlain_of_mem {raws : List String} {p : Policy} (h : ofList raws = .ok p) {k : String}
    (hk : k ∈ p.keywords) : IsPlain k := by
  obtain ⟨-, hplain, hkeywords⟩ := ofList_eq_ok_iff.mp h
  rw [hkeywords, List.mem_eraseDups, List.mem_map] at hk
  obtain ⟨raw, hraw, rfl⟩ := hk
  exact hplain raw hraw

end Policy

/-! ### Letters in either case -/

/-- Whether a character is a letter of a keyword, in either case. The long s is a small S, and the
sign of the Kelvin is a capital K. -/
def sameLetter (k c : Char) : Bool :=
  c.toUpper = k.toUpper || (k.toUpper = 'S' && c = 'ſ') || (k.toUpper = 'K' && c = '\u212A')

/-- A keyword in either case. -/
def caseless (k : String) : Pattern := .all (k.toList.map fun c => .one (sameLetter c))

/-- What is searched for in a text: any of the keywords as a whole word. -/
def Policy.pattern (p : Policy) : Pattern := .wholeWord (.anyOf (p.keywords.map caseless))

lemma toNat_of_isKeywordChar {c : Char} (h : isKeywordChar c = true) : c.toNat < 128 := by
  rw [isKeywordChar, Bool.or_eq_true, decide_eq_true_eq] at h
  rcases h with h | rfl
  · have := Lexeme.toNat_of_isAlphanum h
    omega
  · decide

lemma isWordChar_of_isKeywordChar {c : Char} (h : isKeywordChar c = true) :
    Text.isWordChar c = true := by
  rw [Text.isWordChar, if_pos (toNat_of_isKeywordChar h)]
  simpa [isKeywordChar] using h

lemma isKeywordChar_toUpper (c : Char) : isKeywordChar c.toUpper = isKeywordChar c :=
  Text.forall_of_ascii (P := fun c => isKeywordChar c.toUpper = isKeywordChar c) (by decide)
    fun h _ _ => by rw [h]

/-- A character that is a letter of a keyword can stand in a keyword, or is one of two others. -/
lemma cases_of_sameLetter {k c : Char} (hk : isKeywordChar k = true) (h : sameLetter k c = true) :
    isKeywordChar c = true ∨ c = 'ſ' ∨ c = '\u212A' := by
  simp only [sameLetter, Bool.or_eq_true, Bool.and_eq_true, decide_eq_true_eq] at h
  rcases h with (h | ⟨-, h⟩) | ⟨-, h⟩
  · left
    rw [← isKeywordChar_toUpper, h, isKeywordChar_toUpper, hk]
  · exact .inr (.inl h)
  · exact .inr (.inr h)

lemma isWordChar_of_sameLetter {k c : Char} (hk : isKeywordChar k = true)
    (h : sameLetter k c = true) : Text.isWordChar c = true := by
  rcases cases_of_sameLetter hk h with h | rfl | rfl
  · exact isWordChar_of_isKeywordChar h
  · rfl
  · decide +kernel

/-- One character of a spelling that is compared with keywords. -/
def foldChar (c : Char) : Char := if c = 'ſ' then 'S' else c.toUpper

lemma upperChar_eq {c : Char} (h : isKeywordChar c = true ∨ c = 'ſ') :
    Text.upperChar c = [foldChar c] := by
  rcases h with h | rfl
  · have hascii := toNat_of_isKeywordChar h
    have hlong : c ≠ 'ſ' := by
      rintro rfl
      exact absurd hascii (by decide)
    rw [Text.upperChar, if_pos hascii, foldChar, if_neg hlong]
  · rfl

lemma upper_eq_fold {run : List Char} (h : ∀ c ∈ run, isKeywordChar c = true ∨ c = 'ſ') :
    run.flatMap Text.upperChar = fold run := by
  rw [List.flatMap_congr fun c hc => upperChar_eq (h c hc)]
  exact List.map_eq_flatMap.symm

/-- A word with the spelling of a keyword has its letters. -/
lemma sameLetter_of_fold (run : List Char) (h : ∀ c ∈ fold run, isKeywordChar c = true) :
    List.Forall₂ (fun k c => sameLetter k c = true) (fold run) run ∧
      run.flatMap Text.upperChar = fold run := by
  have hchar : ∀ c ∈ run,
      (isKeywordChar c = true ∨ c = 'ſ') ∧ sameLetter (foldChar c) c = true := by
    intro c hc
    have hk : isKeywordChar (foldChar c) = true := h _ (List.mem_map_of_mem hc)
    by_cases hlong : c = 'ſ'
    · exact ⟨.inr hlong, by rw [hlong]; decide⟩
    · rw [foldChar, if_neg hlong] at hk ⊢
      exact ⟨.inl (by rwa [isKeywordChar_toUpper] at hk),
        by rw [sameLetter, Text.toUpper_toUpper]; simp⟩
  refine ⟨?_, upper_eq_fold fun c hc => (hchar c hc).1⟩
  exact List.forall₂_map_left_iff.mpr (List.forall₂_same.mpr fun c hc => (hchar c hc).2)

/-- The letters of a keyword spell it, unless the sign of the Kelvin is among them. -/
lemma fold_of_sameLetter {k run : List Char} (hk : ∀ c ∈ k, isKeywordChar c = true)
    (h : ∀ c ∈ run, ∃ e, isKeywordChar e = true ∧ sameLetter e c = true)
    (hupper : run.flatMap Text.upperChar = k) : fold run = k := by
  rw [← hupper, upper_eq_fold]
  intro c hc
  obtain ⟨e, he, hsame⟩ := h c hc
  rcases cases_of_sameLetter he hsame with h | h | rfl
  · exact .inl h
  · exact .inr h
  · have hmem : '\u212A' ∈ k := by
      rw [← hupper]
      exact List.mem_flatMap.mpr ⟨_, hc, List.mem_singleton.mpr rfl⟩
    exact absurd (hk _ hmem) (by decide)

/-! ### Reports -/

namespace Policy

variable {raws : List String} {p : Policy}

/-- Texts with the letters of a keyword. -/
def Spells (p : Policy) (run : List Char) : Prop :=
  ∃ k ∈ p.keywords, List.Forall₂ (fun k c => sameLetter k c = true) k.toList run

lemma exists_sameLetter (h : ofList raws = .ok p) {run : List Char} (hrun : p.Spells run) :
    ∀ c ∈ run, ∃ e, isKeywordChar e = true ∧ sameLetter e c = true := by
  obtain ⟨k, hk, hrun⟩ := hrun
  have hplain := (isPlain_of_mem h hk).2
  generalize k.toList = letters at hplain hrun
  induction hrun with
  | nil => simp
  | cons hc _ ih =>
    obtain ⟨he, hplain⟩ := List.forall_mem_cons.mp hplain
    exact List.forall_mem_cons.mpr ⟨⟨_, he, hc⟩, ih hplain⟩

lemma takesWords_keywords (h : ofList raws = .ok p) :
    (Pattern.anyOf (p.keywords.map caseless)).TakesWords p.Spells where
  takes := Pattern.takes_anyOf (g := caseless) (fun k => Pattern.takes_all_one k.toList) p.keywords
  ne_nil := by
    rintro _ ⟨k, hk, hrun⟩ rfl
    rw [List.forall₂_nil_right_iff, String.toList_eq_nil_iff] at hrun
    exact (isPlain_of_mem h hk).1 hrun
  word := by
    intro run hrun c hc
    obtain ⟨e, he, hsame⟩ := exists_sameLetter h hrun c hc
    exact isWordChar_of_sameLetter he hsame

/-- The search finds a keyword just when it occurs. -/
lemma mem_upper_matchesIn_iff (h : ofList raws = .ok p) {sql k : String} (hk : k ∈ p.keywords) :
    k ∈ (p.pattern.matchesIn sql).map Text.upper ↔ Occurs sql k := by
  classical
  have hplain := (isPlain_of_mem h hk).2
  have hmatches : p.pattern.matchesIn sql =
      ((Text.wordRuns sql.toList).filter p.Spells).map String.ofList := by
    rw [Pattern.matchesIn, pattern, (takesWords_keywords h).matchesFrom_eq_filter _ (.inl rfl)]
  have hmem : k ∈ (p.pattern.matchesIn sql).map Text.upper ↔ ∃ run ∈ Text.wordRuns sql.toList,
      p.Spells run ∧ run.flatMap Text.upperChar = k.toList := by
    have hlist (run : List Char) :
        Text.upper (String.ofList run) = k ↔ run.flatMap Text.upperChar = k.toList := by
      rw [Text.upper, String.toList_ofList, ← String.toList_inj, String.toList_ofList]
    simp only [hmatches, List.map_map, List.mem_map, List.mem_filter, decide_eq_true_eq,
      Function.comp_apply, hlist, and_assoc]
  rw [hmem, occurs_iff]
  refine exists_congr fun run => and_congr_right fun _ => ⟨?_, fun hfold => ?_⟩
  · rintro ⟨hspells, hupper⟩
    exact fold_of_sameLetter hplain (exists_sameLetter h hspells) hupper
  · obtain ⟨hsame, hupper⟩ := sameLetter_of_fold run (by rwa [hfold])
    rw [hfold] at hsame hupper
    exact ⟨⟨k, hk, hsame⟩, hupper⟩

end Policy

/-- **What a policy takes and what it reports.** A policy can be made of a list of words unless it
is empty or one of them is not plain; it has each of them once, in upper case. Its report names, in
the order of the policy, the keywords that occur in a text, and these are those that a search for
any keyword as a whole word in either case finds. It blocks the text and gives a reason when there
are any. -/
theorem ofList_report (raws : List String) :
    ((∃ e, Policy.ofList raws = .error e) ↔
      raws = [] ∨ ∃ raw ∈ raws, ¬ IsPlain (spelling raw)) ∧
    ∀ p, Policy.ofList raws = .ok p →
      p.keywords = (raws.map spelling).eraseDups ∧
      ∀ sql, (p.report sql).matched = p.keywords.filter (Occurs sql ·) ∧
        (p.report sql).matched =
          p.keywords.filter (· ∈ (p.pattern.matchesIn sql).map Text.upper) ∧
        (p.report sql).matched.Nodup ∧
        ((p.report sql).blocked = true ↔ (p.report sql).matched ≠ []) ∧
        ((p.report sql).reason?.isSome = true ↔ (p.report sql).matched ≠ []) := by
  refine ⟨?_, fun p h => ⟨(Policy.ofList_eq_ok_iff.mp h).2.2, fun sql => ?_⟩⟩
  · have herror : (∃ e, Policy.ofList raws = .error e) ↔ ¬ ∃ p, Policy.ofList raws = .ok p := by
      rcases Policy.ofList raws with e | p <;> simp
    rw [herror, Policy.exists_ofList_iff, not_and_or, not_not]
    simp only [not_forall, exists_prop]
  · have hmatched : (p.report sql).matched = p.keywords.filter (Occurs sql ·) := by
      refine List.filter_congr fun k _ => ?_
      rw [Bool.eq_iff_iff, decide_eq_true_eq, occurs_iff]
      simp
    have hsearch : p.keywords.filter (Occurs sql ·) =
        p.keywords.filter (· ∈ (p.pattern.matchesIn sql).map Text.upper) :=
      List.filter_congr fun k hk => decide_eq_decide.mpr (Policy.mem_upper_matchesIn_iff h hk).symm
    have hblocked : (p.report sql).blocked = true ↔ (p.report sql).matched ≠ [] := by
      simp [Report.blocked]
    have hreason : (p.report sql).reason?.isSome = (p.report sql).blocked := by
      rw [Report.reason?]
      split <;> simp_all
    exact ⟨hmatched, hmatched.trans hsearch, hmatched ▸ p.nodup.filter _, hblocked,
      by rw [hreason, hblocked]⟩

/-- Words that are given twice or in lower case, and a word with a long s. -/
theorem ofList_report_repeated : ∃ p, Policy.ofList ["drop", " Update ", "DROP", "ſet"] = .ok p ∧
    p.keywords = ["DROP", "UPDATE", "SET"] ∧
    (p.report "UPDATE dropped Set x = 1").matched = ["UPDATE", "SET"] ∧
    (p.report "UPDATE dropped Set x = 1").blocked = true := by
  obtain ⟨p, hp⟩ := Policy.exists_ofList_iff.mpr
    (show ["drop", " Update ", "DROP", "ſet"] ≠ [] ∧ _ from ⟨by decide, by decide +kernel⟩)
  obtain ⟨hkeywords, hreport⟩ := (ofList_report _).2 p hp
  have hnames : p.keywords = ["DROP", "UPDATE", "SET"] := hkeywords.trans (by decide +kernel)
  obtain ⟨hmatched, -, -, hblocked, -⟩ := hreport "UPDATE dropped Set x = 1"
  have hfound : (p.report "UPDATE dropped Set x = 1").matched = ["UPDATE", "SET"] := by
    rw [hmatched, hnames]
    decide +kernel
  exact ⟨p, hp, hnames, hfound, hblocked.mpr (by rw [hfound]; decide)⟩

end QueryGate.Hazard
