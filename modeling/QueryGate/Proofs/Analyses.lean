import QueryGate.Hazard
import QueryGate.Proofs.Chains
import QueryGate.Proofs.Maps
import QueryGate.Proofs.WordRuns

/-!
Analysing a script whole and statement by statement. A semicolon names nothing, belongs to no dotted
name and continues no list of tables, so that what is read off a script falls apart at its
semicolons; and each statement is read alone as it is read in the script.
-/

namespace QueryGate

open Lexeme

/-! ### Readings that fall apart at semicolons -/

/-- A way to read things off lexemes that depends on their meaning only, and begins anew behind
every semicolon. -/
structure IsPiecewise {α : Type} (f : List Lexeme → List α) : Prop where
  nil : f [] = []
  congr : ∀ {xs ys}, List.Forall₂ Alike xs ys → f xs = f ys
  semicolon : ∀ (xs ys : List Lexeme) {s : Lexeme}, s.isSemicolon = true →
    f (xs ++ s :: ys) = f xs ++ f ys

namespace IsPiecewise

variable {α β : Type} {f : List Lexeme → List α}

lemma filterMap (h : IsPiecewise f) (g : α → Option β) :
    IsPiecewise fun xs => (f xs).filterMap g where
  nil := by rw [h.nil, List.filterMap_nil]
  congr hxs := by rw [h.congr hxs]
  semicolon xs ys s hs := by rw [h.semicolon xs ys hs, List.filterMap_append]

lemma flatMap_splitOnP (h : IsPiecewise f) (xs : List Lexeme) :
    (xs.splitOnP isSemicolon).flatMap f = f xs := by
  induction hn : xs.length using Nat.strongRecOn generalizing xs with
  | _ n ih =>
    subst hn
    by_cases hall : ∀ x ∈ xs, x.isSemicolon = false
    · rw [List.splitOnP_eq_singleton hall, List.flatMap_singleton]
    · simp only [not_forall, Bool.not_eq_false] at hall
      obtain ⟨s, hmem, hs⟩ := hall
      obtain ⟨as, bs, rfl⟩ := List.append_of_mem hmem
      rw [List.splitOnP_append_cons _ _ hs, List.flatMap_append, h.semicolon as bs hs,
        ih _ (by simp) as rfl, ih _ (by simp; omega) bs rfl]

/-- **What is read off a script is read off its statements, one after another.** -/
theorem flatMap_split (h : IsPiecewise f) (script : String) :
    (Script.split script).flatMap (fun t => f (Lexeme.ofText t)) = f (Lexeme.ofText script) := by
  have hnil : f (Layout.ofChars []).lexemes = [] := by
    rw [Layout.ofChars_of_gap gap_nil]
    exact h.nil
  have htrim : ∀ s ∈ (Layout.ofText script).statements,
      f (Layout.ofChars (Text.trimChars s.toChars)).lexemes = f s.lexemes := by
    intro s hs
    have hread : Layout.ofChars s.toChars = s :=
      Layout.lexed_of_mem_statements (Layout.lexed_ofChars script.toList) hs
    rw [h.congr (Layout.lexemes_trimChars s.toChars), hread]
  calc (Script.split script).flatMap (fun t => f (Lexeme.ofText t))
      = (Layout.ofText script).statements.flatMap fun s =>
          f (Layout.ofChars (Text.trimChars s.toChars)).lexemes :=
        Script.flatMap_toList_split (f := fun cs => f (Layout.ofChars cs).lexemes) hnil script
    _ = (Layout.ofText script).statements.flatMap fun s => f s.lexemes :=
        List.flatMap_congr htrim
    _ = ((Lexeme.ofText script).splitOnP isSemicolon).flatMap f := by
        rw [← Script.map_lexemes_statements, List.flatMap_map]
    _ = f (Lexeme.ofText script) := h.flatMap_splitOnP _

end IsPiecewise

/-! ### A semicolon -/

namespace Lexeme

variable {s : Lexeme}

lemma identifier?_of_semicolon (hs : s.isSemicolon = true) : s.identifier? = none := by
  rw [identifier?, not_isName_of_semicolon hs]
  rfl

lemma isKeyword_of_semicolon (hs : s.isSemicolon = true) (keyword : String) :
    s.isKeyword keyword = false := by
  have hk : s.kind = .semicolon := by simpa [isSemicolon] using hs
  simp [isKeyword, hk]

lemma kind_ne_of_semicolon (hs : s.isSemicolon = true) {k : Kind} (hk : k ≠ .semicolon) :
    s.kind ≠ k := by
  rintro rfl
  exact hk (by simpa [isSemicolon] using hs)

end Lexeme

/-! ### References -/

/-- A semicolon makes no name longer. -/
lemma BeginsWithLink.of_append_semicolon {xs ys : List Lexeme} {s : Lexeme}
    (hs : s.isSemicolon = true) (h : BeginsWithLink (xs ++ s :: ys)) : BeginsWithLink xs := by
  rcases h.left with h | ⟨-, h⟩ | ⟨d, -, -, x, hx, hn⟩
  · exact h
  · obtain ⟨d, hd, hk⟩ := h.head?
    obtain rfl : s = d := by simpa using hd
    rw [not_semicolon_of_dot hk] at hs
    cases hs
  · obtain rfl : s = x := by simpa using hx
    rw [not_isName_of_semicolon hs] at hn
    cases hn

lemma Reference.ofLexemes_append_semicolon (xs ys : List Lexeme) {s : Lexeme}
    (hs : s.isSemicolon = true) : ofLexemes (xs ++ s :: ys) = ofLexemes xs ++ ofLexemes ys := by
  induction hn : xs.length using Nat.strongRecOn generalizing xs with
  | _ n ih =>
    subst hn
    rcases xs with _ | ⟨a, xs⟩
    · exact ofLexemes_of_not_isName (not_isName_of_semicolon hs) ys
    by_cases hpair : a.isName = true ∧ BeginsWithLink xs
    · obtain ⟨ha, d, b, zs, rfl, hd, hb⟩ := hpair
      obtain ⟨q, hq⟩ := isName_iff.mp ha
      obtain ⟨c, hc⟩ := isName_iff.mp hb
      rw [List.cons_append, List.cons_append, List.cons_append, ofLexemes_pair hd hq hc,
        ofLexemes_pair hd hq hc, ih _ (by simp; omega) zs rfl, List.cons_append]
    · have hskip {rest : List Lexeme} (hrest : BeginsWithLink rest → BeginsWithLink xs) :
          ofLexemes (a :: rest) = ofLexemes rest := by
        by_cases ha : a.isName = true
        · exact ofLexemes_of_not_link fun h => hpair ⟨ha, hrest h⟩
        · exact ofLexemes_of_not_isName (Bool.eq_false_iff.mpr ha) _
      rw [List.cons_append, hskip (BeginsWithLink.of_append_semicolon hs), hskip id]
      exact ih _ (by simp) xs rfl

lemma Reference.isPiecewise_ofLexemes : IsPiecewise Reference.ofLexemes where
  nil := rfl
  congr := ofLexemes_congr
  semicolon := fun xs ys _ hs => ofLexemes_append_semicolon xs ys hs

/-! ### Sources -/

namespace Source

variable {words : ClauseWords} {s : Lexeme}

lemma readAs_append_semicolon (xs ys : List Lexeme) (hs : s.isSemicolon = true) :
    readAs (xs ++ s :: ys) = ((readAs xs).1, (readAs xs).2 ++ s :: ys) := by
  rcases xs with _ | ⟨x, xs⟩
  · simp [readAs, isKeyword_of_semicolon hs]
  · rw [List.cons_append, readAs, readAs]
    split <;> rfl

lemma readAlias_append_semicolon (xs ys : List Lexeme) (hs : s.isSemicolon = true) :
    readAlias words (xs ++ s :: ys) =
      ((readAlias words xs).1, (readAlias words xs).2 ++ s :: ys) := by
  simp only [readAlias, readAs_append_semicolon xs ys hs]
  rcases (readAs xs).2 with _ | ⟨x, zs⟩
  · simp [identifier?_of_semicolon hs]
  · simp only [List.cons_append]
    split <;> rfl

lemma read?_append_semicolon (xs ys : List Lexeme) (hs : s.isSemicolon = true) :
    read? words (xs ++ s :: ys) = (read? words xs).map fun r => (r.1, r.2 ++ s :: ys) := by
  rcases xs with _ | ⟨x, xs⟩
  · simp [read?, identifier?_of_semicolon hs]
  · simp only [List.cons_append, read?, readAlias_append_semicolon xs ys hs, Option.map_map]
    rfl

lemma readList_append_semicolon (xs ys : List Lexeme) (hs : s.isSemicolon = true) :
    readList words (xs ++ s :: ys) = readList words xs := by
  induction hn : xs.length using Nat.strongRecOn generalizing xs with
  | _ n ih =>
    subst hn
    have happend : read? words (xs ++ s :: ys) =
        (read? words xs).map fun r => (r.1, r.2 ++ s :: ys) := read?_append_semicolon xs ys hs
    rcases hread : read? words xs with _ | ⟨t, rest⟩
    · rw [hread] at happend
      rw [readList_of_none hread, readList_of_none happend]
    · rw [hread] at happend
      have hlength := read?_length hread
      rw [readList_of_some hread, readList_of_some happend]
      rcases rest with _ | ⟨y, rest⟩
      · simp [kind_ne_of_semicolon hs (k := .comma) (by decide)]
      · simp only [List.length_cons] at hlength
        simp only [List.cons_append, ih _ (by omega) rest rfl]

lemma ofLexemes_append_semicolon (xs ys : List Lexeme) (hs : s.isSemicolon = true) :
    ofLexemes words (xs ++ s :: ys) = ofLexemes words xs ++ ofLexemes words ys := by
  induction xs with
  | nil => simp [ofLexemes, isKeyword_of_semicolon hs]
  | cons x xs ih =>
    have hread : (read? words (xs ++ s :: ys)).map Prod.fst = (read? words xs).map Prod.fst := by
      rw [read?_append_semicolon xs ys hs, Option.map_map]
      rfl
    rw [List.cons_append, ofLexemes, ofLexemes, readList_append_semicolon xs ys hs, hread, ih,
      List.append_assoc]

lemma isPiecewise_ofLexemes (words : ClauseWords) : IsPiecewise (ofLexemes words) where
  nil := rfl
  congr := ofLexemes_congr words
  semicolon := fun xs ys _ hs => ofLexemes_append_semicolon xs ys hs

/-- The alias that a source gives its table. -/
def aliasOf? (s : Source) : Option (String × String) := s.alias?.map (·, s.table)

end Source

/-! ### Whole scripts -/

lemma Hazard.Policy.mem_matched_iff {p : Policy} {sql k : String} :
    k ∈ (p.report sql).matched ↔
      k ∈ p.keywords ∧ ∃ run ∈ Text.wordRuns sql.toList, fold run = k.toList := by
  simp [report]

/-- **A script is analysed whole as its statements are analysed one by one.** It has the dangerous
words of all of them, their references in order, and the aliases that they give one after
another. -/
theorem Script.analysis_split (p : Hazard.Policy) (words : ClauseWords) (script : String) :
    (∀ k, k ∈ (p.report script).matched ↔ ∃ t ∈ split script, k ∈ (p.report t).matched) ∧
    (Extraction.ofText words script).references =
      (split script).flatMap (fun t => (Extraction.ofText words t).references) ∧
    (Extraction.ofText words script).aliases =
      .ofList ((split script).flatMap fun t => (Extraction.ofText words t).aliases.entries) := by
  refine ⟨fun k => ?_, ?_, ?_⟩
  · simp only [Hazard.Policy.mem_matched_iff, ← wordRuns_split script, List.mem_flatMap]
    constructor
    · rintro ⟨hk, run, ⟨t, ht, hrun⟩, hfold⟩
      exact ⟨t, ht, hk, run, hrun, hfold⟩
    · rintro ⟨t, ht, hk, run, hrun, hfold⟩
      exact ⟨hk, run, ⟨t, ht, hrun⟩, hfold⟩
  · exact (Reference.isPiecewise_ofLexemes.flatMap_split script).symm
  · have hpiecewise := (Source.isPiecewise_ofLexemes words).filterMap Source.aliasOf?
    have hentries := hpiecewise.flatMap_split script
    have haliases (t : String) : (Extraction.ofText words t).aliases =
        .ofList ((Source.ofLexemes words (Lexeme.ofText t)).filterMap Source.aliasOf?) := rfl
    simp only [haliases]
    rw [OrderedMap.ofList_flatMap_entries
      (fun t => (Source.ofLexemes words (Lexeme.ofText t)).filterMap Source.aliasOf?), hentries]

/-- An alias keeps the place where it was given first. -/
example : (Extraction.ofText Reference.clauseWords
    "SELECT x.id FROM a x, b y; SELECT y.id, x.id FROM c x").aliases.entries =
      [("x", "c"), ("y", "b")] := by
  decide +kernel

end QueryGate
