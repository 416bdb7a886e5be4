import QueryGate.Proofs.Analyses

/-!
Splitting a script is exact. Every statement stands for itself: it is trimmed, it has no semicolon of
its own, and splitting it again gives it back. Read one after another, the statements say what the
script says between its semicolons.
-/

namespace QueryGate

open Lexeme

namespace Lexeme

/-- What a lexeme says: its kind, and the name that it is. -/
def meaning (x : Lexeme) : Kind × Option String := (x.kind, x.identifier?)

/-- What lexemes say between the semicolons. -/
def meanings (xs : List Lexeme) : List (Kind × Option String) :=
  (xs.filter (·.kind ≠ .semicolon)).map meaning

lemma meanings_of_not_semicolon {xs : List Lexeme} (h : ∀ x ∈ xs, x.kind ≠ .semicolon) :
    meanings xs = xs.map meaning := by
  have hself : xs.filter (·.kind ≠ .semicolon) = xs :=
    List.filter_eq_self.mpr fun x hx => by simpa using h x hx
  rw [meanings, hself]

lemma meanings_congr {xs ys : List Lexeme} (h : List.Forall₂ Alike xs ys) :
    meanings xs = meanings ys := by
  unfold meanings
  induction h with
  | nil => rfl
  | @cons x y xs ys hxy _ ih =>
    have hmeaning : x.meaning = y.meaning := by
      rw [meaning, meaning, hxy.kind, hxy.identifier]
    by_cases hk : y.kind = .semicolon
    · rw [List.filter_cons_of_neg (by simp [hxy.kind, hk]), List.filter_cons_of_neg (by simp [hk])]
      exact ih
    · rw [List.filter_cons_of_pos (by simpa [hxy.kind] using hk),
        List.filter_cons_of_pos (by simpa using hk), List.map_cons, List.map_cons, hmeaning, ih]

lemma isPiecewise_meanings : IsPiecewise meanings where
  nil := rfl
  congr := meanings_congr
  semicolon xs ys s hs := by
    have hk : s.kind = .semicolon := by simpa [isSemicolon] using hs
    unfold meanings
    rw [List.filter_append, List.filter_cons_of_neg (by simp [hk]), List.map_append]

lemma not_semicolon_of_forall₂ {xs ys : List Lexeme} (h : List.Forall₂ Alike xs ys)
    (hys : ∀ y ∈ ys, y.isSemicolon = false) : ∀ x ∈ xs, x.kind ≠ .semicolon := by
  induction h with
  | nil => simp
  | @cons x y xs ys hxy _ ih =>
    obtain ⟨hy, hys⟩ := List.forall_mem_cons.mp hys
    refine List.forall_mem_cons.mpr ⟨?_, ih hys⟩
    rw [hxy.kind]
    simpa [isSemicolon] using hy

end Lexeme

lemma Layout.cut_eq_singleton {tail : List Char} {ps : List Placed}
    (h : ∀ p ∈ ps, p.lexeme.kind ≠ .semicolon) : cut tail ps = [⟨ps, tail⟩] := by
  induction ps with
  | nil => rfl
  | cons p ps ih =>
    obtain ⟨hp, hps⟩ := List.forall_mem_cons.mp h
    rw [cut, ih hps, if_neg (by simpa [isSemicolon] using hp)]
    rfl

namespace Script

/-- A text without a semicolon of its own is its only statement. -/
lemma split_eq_singleton {t : String} (htrim : Text.trim t = t) (hne : t ≠ "")
    (h : ∀ x ∈ Lexeme.ofText t, x.kind ≠ .semicolon) : split t = [t] := by
  have hplaced : ∀ p ∈ (Layout.ofText t).placed, p.lexeme.kind ≠ .semicolon :=
    fun p hp => h p.lexeme (List.mem_map_of_mem hp)
  have hpieces : pieces (Layout.ofText t).tail (Layout.ofText t).placed = [t.toList] := by
    rw [Layout.pieces_eq, Layout.cut_eq_singleton hplaced, List.map_singleton]
    exact congrArg (fun cs => [cs]) (Layout.toChars_ofChars t.toList)
  have htrim' : Text.trimChars t.toList = t.toList := by
    rw [← Text.toList_trim, htrim]
  have hsplit : splitChars t.toList = [t.toList] := by
    have hne' : t.toList.isEmpty = false := by
      rw [List.isEmpty_eq_false_iff]
      exact fun he => hne (String.toList_eq_nil_iff.mp he)
    unfold splitChars
    simp only
    rw [← Layout.ofText, hpieces, List.map_singleton, htrim', List.filter_singleton, hne']
    rfl
  rw [split, hsplit, List.map_singleton, String.ofList_toList]

lemma not_semicolon_of_mem_split {script t : String} (h : t ∈ split script) :
    ∀ x ∈ Lexeme.ofText t, x.kind ≠ .semicolon := by
  obtain ⟨xs, hxs, halike⟩ := exists_of_mem_split h
  obtain ⟨-, -, -, hsemi, -⟩ := exists_append_of_mem_splitOnP hxs
  exact not_semicolon_of_forall₂ halike hsemi

/-- **Splitting a script is exact and stable.** Its statements are trimmed and not empty, have no
semicolons and are not split again, and they say together what the script says between its
semicolons. -/
theorem split_exact (script : String) :
    (∀ t ∈ split script, Text.trim t = t ∧ t ≠ "" ∧
      (∀ x ∈ Lexeme.ofText t, x.kind ≠ .semicolon) ∧ split t = [t]) ∧
    (split script).flatMap (fun t => (Lexeme.ofText t).map meaning) =
      ((Lexeme.ofText script).filter (·.kind ≠ .semicolon)).map meaning := by
  constructor
  · intro t ht
    have hsemi := not_semicolon_of_mem_split ht
    obtain ⟨s, -, hne, rfl⟩ := mem_split_iff.mp ht
    have htrim : Text.trim (String.ofList (Text.trimChars s.toChars)) =
        String.ofList (Text.trimChars s.toChars) := by
      rw [Text.trim, String.toList_ofList, Text.trimChars_trimChars]
    have hne' : String.ofList (Text.trimChars s.toChars) ≠ "" := by
      simpa [String.ofList_eq_empty_iff] using hne
    exact ⟨htrim, hne', hsemi, split_eq_singleton htrim hne' hsemi⟩
  · calc (split script).flatMap (fun t => (Lexeme.ofText t).map meaning)
        = (split script).flatMap fun t => meanings (Lexeme.ofText t) :=
          List.flatMap_congr fun t ht =>
            (meanings_of_not_semicolon (not_semicolon_of_mem_split ht)).symm
      _ = meanings (Lexeme.ofText script) := isPiecewise_meanings.flatMap_split script

/-- The second statement ends with a comment, and the last one in the middle of a literal. -/
theorem split_exact_open :
    let script := "SELECT ';' FROM a;; DELETE FROM b -- c; d\n ; SELECT 'e;  "
    "DELETE FROM b -- c; d" ∈ split script ∧ "SELECT 'e;" ∈ split script ∧
      split "DELETE FROM b -- c; d" = ["DELETE FROM b -- c; d"] ∧
      split "SELECT 'e;" = ["SELECT 'e;"] := by
  intro script
  have h1 : "DELETE FROM b -- c; d" ∈ split script := by decide +kernel
  have h2 : "SELECT 'e;" ∈ split script := by decide +kernel
  exact ⟨h1, h2, ((split_exact script).1 _ h1).2.2.2, ((split_exact script).1 _ h2).2.2.2⟩

end Script

end QueryGate
