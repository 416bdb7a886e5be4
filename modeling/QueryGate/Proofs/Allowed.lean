import QueryGate.Gate
import QueryGate.Proofs.Chains
import QueryGate.Proofs.Results
import QueryGate.Proofs.WordRuns

/-!
What it means that a script is allowed. The verdict is reached statement by statement; the property
is one of the whole script: no word of it is dangerous, and every pair of names in it is a column.
-/

namespace QueryGate

open Lexeme

/-- A reference stands for a column of a table, which its qualifier may name by an alias. -/
def Reference.Resolves (tables : Catalog) (aliases : OrderedMap String String) (r : Reference) :
    Prop :=
  ∃ t, tables.get? (Resolution.base aliases r.qualifier) = some t ∧
    ∃ c ∈ t.columns, c.normalName = r.column

namespace Resolution

lemma unknown?_eq_none_iff {tables : Catalog} {aliases : OrderedMap String String}
    {r : Reference} : unknown? tables aliases r = none ↔ r.Resolves tables aliases := by
  rw [unknown?, Reference.Resolves]
  rcases tables.get? (base aliases r.qualifier) with _ | t
  · simp
  · simp [Table.hasColumn]

lemma ofExtraction_ok_iff {tables : Catalog} {e : Extraction} :
    (ofExtraction tables e).ok = true ↔ ∀ r ∈ e.references, r.Resolves tables e.aliases := by
  rw [Report.ok, ofExtraction, List.isEmpty_iff, List.filterMap_eq_nil_iff]
  simp only [unknown?_eq_none_iff]

end Resolution

namespace Gate

variable {g : Gate} {s? : Option Snapshot}

/-! ### One statement -/

lemma not_blocked_iff {p : Hazard.Policy} {sql : String} :
    (p.report sql).blocked = false ↔
      ∀ run ∈ Text.wordRuns sql.toList, ∀ k ∈ p.keywords, Hazard.fold run ≠ k.toList := by
  rw [Hazard.Report.blocked, Hazard.Policy.report, Bool.not_eq_false', List.isEmpty_iff,
    List.filter_eq_nil_iff]
  simp only [List.contains_iff_mem, List.mem_map, not_exists, not_and]
  exact ⟨fun h run hr k hk => h k hk run hr, fun h k hk run hr => h run hr k hk⟩

lemma decide_verdict_eq_allowed_iff {sql : String} {h : Hazard.Report}
    {r? : Option Resolution.Report} :
    (g.decide sql h r?).verdict = .allowed ↔ h.blocked = false ∧ ∀ r ∈ r?, r.ok = true := by
  have hd : h.reason?.toList = [] ↔ h.blocked = false := by
    rw [Hazard.Report.reason?]
    rcases h.blocked <;> simp
  rcases r? with _ | r
  · simp only [decide, List.isEmpty_nil, Bool.not_true, Bool.false_eq_true, if_false,
      Bool.not_eq_true', List.isEmpty_eq_false_iff, ne_eq, hd, Option.not_mem_none]
    rcases h.blocked <;> simp
  · rcases hr : r.ok
    · simp only [decide, hr]
      rcases g.rejectsUnknown <;> simp [hr]
    · simp only [decide, hr, if_true, List.isEmpty_nil, Bool.not_true, Bool.false_eq_true, if_false,
        Bool.not_eq_true', List.isEmpty_eq_false_iff, ne_eq, hd, Option.mem_some, forall_eq']
      rcases h.blocked <;> simp

/-- A statement passes when none of its words is dangerous and all its references are known. -/
lemma check_verdict_eq_allowed_iff {t : String} {d : Decision} (h : g.check s? t = .ok d) :
    d.verdict = .allowed ↔ (g.policy.report (Text.trim t)).blocked = false ∧
      ∀ s ∈ s?, (Resolution.report g.clauseWords s (Text.trim t)).ok = true := by
  unfold check at h
  simp only at h
  split at h
  · cases h
  split at h
  · next hb =>
    cases h
    rw [Bool.and_eq_true] at hb
    simp [refuse, hb.1]
  · cases h
    rw [decide_verdict_eq_allowed_iff]
    simp

/-! ### A whole script -/

lemma foldl_worse_eq_allowed_iff (ds : List Decision) (v : Verdict) :
    ds.foldl (fun v d => v.worse d.verdict) v = .allowed ↔
      v = .allowed ∧ ∀ d ∈ ds, d.verdict = .allowed := by
  induction ds generalizing v with
  | nil => simp
  | cons d ds ih =>
    have hw : v.worse d.verdict = .allowed ↔ v = .allowed ∧ d.verdict = .allowed := by
      rcases v <;> rcases d.verdict <;> simp [Verdict.worse, Verdict.exitCode]
    simp [ih, hw, and_assoc]

lemma overall_eq_allowed_iff {ds : List Decision} :
    overall ds = .allowed ↔ ∀ d ∈ ds, d.verdict = .allowed := by
  simp [overall, foldl_worse_eq_allowed_iff]

lemma forall₂_of_checkScript {script : String} {ds : List Decision}
    (h : g.checkScript s? script = .ok ds) :
    List.Forall₂ (fun t d => g.check s? t = .ok d) (Script.split script) ds := by
  unfold checkScript at h
  split at h
  · cases h
  · exact mapM_eq_ok_iff.mp h

lemma forall_verdict_iff {ts : List String} {ds : List Decision}
    (h : List.Forall₂ (fun t d => g.check s? t = .ok d) ts ds) :
    (∀ d ∈ ds, d.verdict = .allowed) ↔
      ∀ t ∈ ts, (g.policy.report (Text.trim t)).blocked = false ∧
        ∀ s ∈ s?, (Resolution.report g.clauseWords s (Text.trim t)).ok = true := by
  induction h with
  | nil => simp
  | cons hd _ ih => simp only [List.forall_mem_cons, ih, check_verdict_eq_allowed_iff hd]

/-! ### Words -/

lemma forall_not_blocked_iff {p : Hazard.Policy} {script : String} :
    (∀ t ∈ Script.split script, (p.report (Text.trim t)).blocked = false) ↔
      ∀ run, Text.IsWordRun script.toList run → ∀ k ∈ p.keywords,
        Hazard.fold run ≠ k.toList := by
  have hw (run : List Char) : Text.IsWordRun script.toList run ↔
      ∃ t ∈ Script.split script, run ∈ Text.wordRuns t.toList := by
    rw [← Text.mem_wordRuns_iff, ← Script.wordRuns_split, List.mem_flatMap]
  simp only [not_blocked_iff, Text.trim, String.toList_ofList, Text.wordRuns_trimChars, hw]
  exact ⟨fun h run ⟨t, ht, hr⟩ => h t ht run hr, fun h t ht run hr => h run ⟨t, ht, hr⟩⟩

/-! ### References -/

lemma extraction_trim (words : ClauseWords) (t : String) :
    Extraction.ofText words (Text.trim t) = Extraction.ofLexemes words (Lexeme.ofText t) := by
  have h := Layout.lexemes_trimChars t.toList
  rw [← String.toList_ofList (l := Text.trimChars t.toList)] at h
  exact Extraction.ofLexemes_congr words h

/-- The chains of a statement are those of the script that stand in it. -/
lemma maximalChain_of_statement {b p xs q a : List Lexeme} {ns : List String}
    (h : MaximalChain p xs q ns) (hb : ∀ x ∈ b.getLast?, x.isSemicolon = true)
    (ha : ∀ x ∈ a.head?, x.isSemicolon = true) : MaximalChain (b ++ p) xs (q ++ a) ns := by
  refine ⟨h.chain, fun hl => ?_, fun hr => ?_⟩
  · rcases hl.right with hp | ⟨-, hb'⟩ | ⟨d, -, -, x, hx, hn⟩
    · exact h.left hp
    · obtain ⟨d, hd, hk⟩ := hb'.getLast?
      simpa [not_semicolon_of_dot hk] using hb d hd
    · simpa [not_semicolon_of_isName hn] using hb x hx
  · rcases hr.left with hq | ⟨-, ha'⟩ | ⟨d, -, -, x, hx, hn⟩
    · exact h.right hq
    · obtain ⟨d, hd, hk⟩ := ha'.head?
      simpa [not_semicolon_of_dot hk] using ha d hd
    · simpa [not_semicolon_of_isName hn] using ha x hx

lemma maximalChain_statement {before xs after : List Lexeme} {ns : List String}
    (h : MaximalChain before xs after ns) :
    MaximalChain (before.rtakeWhile (!·.isSemicolon)) xs (after.takeWhile (!·.isSemicolon)) ns := by
  refine ⟨h.chain, fun hl => h.left ?_,
    fun hr => h.right (hr.of_isPrefix (List.takeWhile_prefix _))⟩
  obtain ⟨b, hb⟩ := List.rtakeWhile_suffix (!·.isSemicolon) before
  rw [← hb]
  exact hl.of_append

lemma forall_resolved_iff {words : ClauseWords} {s : Snapshot} {script : String} :
    (∀ t ∈ Script.split script, (Resolution.report words s (Text.trim t)).ok = true) ↔
      ∀ before xs after ns, Lexeme.ofText script = before ++ xs ++ after →
        MaximalChain before xs after ns → ∀ r ∈ Reference.pairs ns,
          r.Resolves s.tables
            (Extraction.ofLexemes words (Script.statementAround before xs after)).aliases := by
  simp only [Resolution.report, extraction_trim, Resolution.ofExtraction_ok_iff]
  constructor
  · intro h before xs after ns e hm r hr
    have hmem := Script.statementAround_mem (b := before) hm.chain.not_semicolon after
    rw [← e] at hmem
    have hin : r ∈ Reference.ofLexemes (Script.statementAround before xs after) :=
      Reference.mem_of_maximalChain (maximalChain_statement hm) hr
    rcases Script.mem_split_of_mem_splitOnP hmem with h0 | ⟨t, ht, hal⟩
    · rw [h0] at hin
      cases hin
    · rw [← Extraction.ofLexemes_congr words hal]
      refine h t ht r ?_
      rw [Extraction.ofLexemes_congr words hal]
      exact hin
  · intro h t ht r hr
    obtain ⟨xs, hxs, hal⟩ := Script.exists_of_mem_split ht
    rw [Extraction.ofLexemes_congr words hal] at hr ⊢
    obtain ⟨b, a, e, hsemi, hb, ha⟩ := Script.exists_append_of_mem_splitOnP hxs
    obtain ⟨p, ys, q, ns, rfl, hm, hp⟩ := Reference.exists_maximalChain hr
    rw [← Script.statementAround_eq hsemi hb ha]
    exact h _ _ _ _ (by rw [e]; simp) (maximalChain_of_statement hm hb ha) r hp

/-- **A script is allowed just when it is harmless and known.** No maximal run of word characters
in it is a keyword of the policy, and every pair of every maximal chain in it is a column, under the
aliases of the statement in which the chain stands. -/
theorem allowed_iff {g : Gate} {s? : Option Snapshot} {script : String} {ds : List Decision}
    (h : g.checkScript s? script = .ok ds) :
    overall ds = .allowed ↔
      (∀ run, Text.IsWordRun script.toList run → ∀ k ∈ g.policy.keywords,
        Hazard.fold run ≠ k.toList) ∧
      ∀ s ∈ s?, ∀ before xs after ns, Lexeme.ofText script = before ++ xs ++ after →
        MaximalChain before xs after ns → ∀ r ∈ Reference.pairs ns,
          r.Resolves s.tables
            (Extraction.ofLexemes g.clauseWords
              (Script.statementAround before xs after)).aliases := by
  rw [overall_eq_allowed_iff, forall_verdict_iff (forall₂_of_checkScript h)]
  simp only [forall_and, forall_not_blocked_iff]
  refine and_congr Iff.rfl ⟨fun hr s hs => ?_, fun hr t ht s hs => ?_⟩
  · exact forall_resolved_iff.mp fun t ht => hr t ht s hs
  · exact forall_resolved_iff.mpr (hr s hs) t ht

/-- A snapshot of one table. -/
def users : Snapshot :=
  .take "app" none (.ofList [("users", ⟨[.ofName "id", .ofName "name"], [], []⟩)]) .epoch

/-- What is known of two statements, of which the first gives the table another name. -/
theorem allowed_users :
    let script := "SELECT u.id FROM users u; SELECT users.name FROM users"
    (∀ run, Text.IsWordRun script.toList run → ∀ k ∈ standard.policy.keywords,
      Hazard.fold run ≠ k.toList) ∧
    ∀ before xs after ns, Lexeme.ofText script = before ++ xs ++ after →
      MaximalChain before xs after ns → ∀ r ∈ Reference.pairs ns,
        r.Resolves users.tables
          (Extraction.ofLexemes Reference.clauseWords
            (Script.statementAround before xs after)).aliases := by
  intro script
  have h : standard.checkScript (some users) script = .ok
      [⟨.allowed, "SELECT u.id FROM users u", ⟨[]⟩, some ⟨[]⟩, []⟩,
        ⟨.allowed, "SELECT users.name FROM users", ⟨[]⟩, some ⟨[]⟩, []⟩] :=
    eq_ok_of_toOption (by decide +kernel)
  have := (allowed_iff h).mp rfl
  exact ⟨this.1, this.2 users rfl⟩

end Gate

end QueryGate
