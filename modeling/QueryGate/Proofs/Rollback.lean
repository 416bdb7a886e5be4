import QueryGate.Proofs.Names
import QueryGate.Proofs.Parts

/-!
Transactions that are rolled back. The commands around a statement stand alone in the script just
when the statement does not end inside a comment, a literal or a quoted name: there the semicolon
behind it ends nothing, and the rollback becomes a piece of the statement.
-/

namespace QueryGate

open Lexeme

/-! ### Words and commands -/

namespace Script

/-- Words one after another. -/
def phrase (words : List (List Char)) : List Char := [' '].intercalate words

lemma parts_word {w : List Char} (hw : isWord w = true) {x : Char} (hx : ¬ isWordPart x = true)
    (s : List Char) : parts (w ++ x :: s) = (parts (x :: s)).modifyHead (w ++ ·) := by
  obtain ⟨c, cs, rfl, hc, hcs⟩ := exists_of_isWord hw
  rw [List.cons_append, parts_of_scan (gap_word hc _) (scan_isWord hc hcs hx s),
    if_neg (by decide)]
  rfl

lemma parts_phrase {words : List (List Char)} (h : ∀ w ∈ words, isWord w = true)
    (s : List Char) : parts (phrase words ++ ';' :: s) = phrase words :: parts s := by
  have h0 : parts (';' :: s) = [] :: parts s := by
    have ho : (Layout.ofChars []).isOpen = false := by
      rw [Layout.isOpen_of_gap gap_nil, gapIsOpen_nil]
    rw [← List.nil_append (';' :: s), parts_append_of_closed ho, parts_nil]
    rfl
  induction words with
  | nil => exact h0
  | cons w words ih =>
    obtain ⟨hw, hws⟩ := List.forall_mem_cons.mp h
    rcases words with _ | ⟨w', words⟩
    · rw [phrase, List.intercalate_singleton, parts_word hw (by decide), h0]
      simp
    · rw [phrase, List.intercalate_cons_cons, ← phrase, List.append_assoc, List.append_assoc,
        List.singleton_append, parts_word hw (by decide), parts_cons_blank (by decide), ih hws]
      simp

lemma phrase_eq_cons {w : List Char} (hw : isWord w = true) (words : List (List Char)) :
    ∃ c cs, phrase (w :: words) = c :: cs ∧ isWordPart c = true := by
  obtain ⟨c, cs, rfl, hc, -⟩ := exists_of_isWord hw
  rcases words with _ | ⟨w', words⟩
  · exact ⟨c, cs, List.intercalate_singleton, isWordPart_of_isWordStart hc⟩
  · exact ⟨c, _, List.intercalate_cons_cons .., isWordPart_of_isWordStart hc⟩

lemma getLast?_phrase {words : List (List Char)} (h : ∀ w ∈ words, isWord w = true) :
    ∀ c ∈ (phrase words).getLast?, isWordPart c = true := by
  induction words with
  | nil => simp [phrase]
  | cons w words ih =>
    obtain ⟨hw, hws⟩ := List.forall_mem_cons.mp h
    rcases words with _ | ⟨w', words⟩
    · rw [phrase, List.intercalate_singleton]
      exact fun c hc => isWordPart_of_isWord hw c (List.mem_of_getLast? hc)
    · obtain ⟨c, cs, hcs, -⟩ := phrase_eq_cons (hws w' List.mem_cons_self) words
      rw [phrase, List.intercalate_cons_cons, ← phrase,
        List.getLast?_append_of_ne_nil _ (by simp [hcs])]
      exact ih hws

lemma trimChars_phrase {words : List (List Char)} (h : ∀ w ∈ words, isWord w = true) :
    Text.trimChars (phrase words) = phrase words := by
  rcases words with _ | ⟨w, words⟩
  · rfl
  refine Text.trimChars_eq_self (fun c hc hb => ?_) fun c hc hb =>
    not_wordPart_of_blank hb (getLast?_phrase h c hc)
  obtain ⟨d, cs, hcs, hd⟩ := phrase_eq_cons (h w List.mem_cons_self) words
  rw [hcs] at hc
  cases hc
  exact not_wordPart_of_blank hb hd

/-- **A command with its semicolon is a statement of its own in front of a script.** -/
theorem splitChars_phrase {w : List Char} {words : List (List Char)}
    (h : ∀ v ∈ w :: words, isWord v = true) (s : List Char) :
    splitChars (phrase (w :: words) ++ ';' :: s) = phrase (w :: words) :: splitChars s := by
  obtain ⟨c, cs, hcs, -⟩ := phrase_eq_cons (h w List.mem_cons_self) words
  have hc : clean [phrase (w :: words)] = [phrase (w :: words)] := by
    have hne : phrase (w :: words) ≠ [] := by simp [hcs]
    simp [clean, trimChars_phrase h, hne]
  rw [splitChars_eq, parts_phrase h, clean_cons, hc, splitChars_eq]
  rfl

lemma not_mem_phrase {x : Char} (hx : ¬ isWordPart x = true) (hs : x ≠ ' ')
    {words : List (List Char)} (h : ∀ w ∈ words, isWord w = true) : x ∉ phrase words := by
  induction words with
  | nil => simp [phrase]
  | cons w words ih =>
    obtain ⟨hw, hws⟩ := List.forall_mem_cons.mp h
    have hxw : x ∉ w := fun hm => hx (isWordPart_of_isWord hw x hm)
    rcases words with _ | ⟨w', words⟩
    · rwa [phrase, List.intercalate_singleton]
    · rw [phrase, List.intercalate_cons_cons, ← phrase]
      simp only [List.mem_append, List.mem_singleton, not_or]
      exact ⟨⟨hxw, hs⟩, ih hws⟩

/-! ### Transactions -/

/-- The commands behind a statement that is rolled back, without their last semicolon. -/
def undoing (savepoint : List Char) : List Char :=
  '\n' :: (phrase ["ROLLBACK".toList, "TO".toList, "SAVEPOINT".toList, savepoint] ++
    ';' :: '\n' :: phrase ["COMMIT".toList])

lemma toList_rolledBack (savepoint sql : String) :
    (rolledBack savepoint sql).toList = phrase ["BEGIN".toList] ++ ';' :: '\n' ::
      (phrase ["SAVEPOINT".toList, savepoint.toList] ++ ';' :: '\n' ::
        (terminate (Text.trimChars sql.toList) ++ (undoing savepoint.toList ++ [';']))) := by
  simp [rolledBack, Text.join, undoing, phrase, List.intercalate_cons_cons]

lemma isWord_undoing {n : List Char} (hn : isWord n = true) :
    ∀ w ∈ ["ROLLBACK".toList, "TO".toList, "SAVEPOINT".toList, n], isWord w = true := by
  simpa [hn] using by decide

lemma splitChars_undoing {n : List Char} (hn : isWord n = true) :
    splitChars (undoing n ++ [';']) =
      [phrase ["ROLLBACK".toList, "TO".toList, "SAVEPOINT".toList, n],
        phrase ["COMMIT".toList]] := by
  have h2 : ∀ w ∈ ["COMMIT".toList], isWord w = true := by decide
  have h3 : splitChars [] = [] := by
    rw [splitChars_eq, parts_nil]
    rfl
  rw [undoing, List.cons_append, splitChars_cons_blank (by decide), List.append_assoc,
    List.cons_append, List.cons_append, splitChars_phrase (isWord_undoing hn),
    splitChars_cons_blank (by decide), splitChars_phrase h2, h3]

lemma count_undoing {n : List Char} (hn : isWord n = true) : (undoing n).count ';' = 1 := by
  have hw := not_mem_phrase (x := ';') (by decide) (by decide) (isWord_undoing hn)
  rw [undoing, List.count_cons_of_ne (by decide), List.count_append, List.count_eq_zero.mpr hw]
  decide

/-- What a transaction around a statement is split into, up to the statement. -/
lemma splitChars_rolledBack {savepoint : String} (hn : isWord savepoint.toList = true)
    (sql : String) :
    splitChars (rolledBack savepoint sql).toList =
      phrase ["BEGIN".toList] :: phrase ["SAVEPOINT".toList, savepoint.toList] ::
        splitChars (terminate (Text.trimChars sql.toList) ++
          (undoing savepoint.toList ++ [';'])) := by
  have h1 : ∀ w ∈ ["BEGIN".toList], isWord w = true := by decide
  have h2 : ∀ w ∈ ["SAVEPOINT".toList, savepoint.toList], isWord w = true := by
    simpa [hn] using by decide
  rw [toList_rolledBack, splitChars_phrase h1, splitChars_cons_blank (by decide),
    splitChars_phrase h2, splitChars_cons_blank (by decide)]

/-- **The commands around a statement that is rolled back are statements of their own just when the
statement ends outside comments and quotes.** -/
theorem split_rolledBack_iff {savepoint : String} (hn : isWord savepoint.toList = true)
    (sql : String) :
    split (rolledBack savepoint sql) =
        "BEGIN" :: ("SAVEPOINT " ++ savepoint) ::
          (split sql ++ ["ROLLBACK TO SAVEPOINT " ++ savepoint, "COMMIT"]) ↔
      (Layout.ofText (Text.trim sql)).isOpen = false := by
  have hu := splitChars_undoing hn
  have hs : (undoing savepoint.toList).count ';' <
      (splitChars (undoing savepoint.toList ++ [';'])).length := by
    rw [count_undoing hn, hu]
    simp
  have hiff := splitChars_terminate_append_iff hs (Text.trimChars sql.toList)
  rw [splitChars_trimChars, hu] at hiff
  rw [Layout.ofText, Text.trim, String.toList_ofList, ← hiff]
  -- the same lists, as texts
  have hr : "BEGIN" :: ("SAVEPOINT " ++ savepoint) ::
        (split sql ++ ["ROLLBACK TO SAVEPOINT " ++ savepoint, "COMMIT"]) =
      (phrase ["BEGIN".toList] :: phrase ["SAVEPOINT".toList, savepoint.toList] ::
        (splitChars sql.toList ++
          [phrase ["ROLLBACK".toList, "TO".toList, "SAVEPOINT".toList, savepoint.toList],
            phrase ["COMMIT".toList]])).map String.ofList := by
    simp [split, phrase, List.intercalate_cons_cons, ← String.toList_inj]
  have hinj : Function.Injective String.ofList := fun a b h => String.ofList_inj.mp h
  rw [hr, split, splitChars_rolledBack hn, (List.map_injective_iff.mpr hinj).eq_iff,
    List.cons.injEq, List.cons.injEq]
  simp only [true_and]

/-- A semicolon and a comment mark inside a literal do no harm. -/
theorem split_rolledBack_literal :
    isWord "trial".toList = true ∧
      split (rolledBack "trial" "DELETE FROM notes WHERE body = '; --';\n") =
        ["BEGIN", "SAVEPOINT trial", "DELETE FROM notes WHERE body = '; --'",
          "ROLLBACK TO SAVEPOINT trial", "COMMIT"] := by
  have hn : isWord "trial".toList = true := by decide
  have hsql : split "DELETE FROM notes WHERE body = '; --';\n" =
      ["DELETE FROM notes WHERE body = '; --'"] := by decide +kernel
  have h := (split_rolledBack_iff hn "DELETE FROM notes WHERE body = '; --';\n").mpr
    (by decide +kernel)
  rw [hsql] at h
  exact ⟨hn, h⟩

/-- A comment at the end of a statement takes the semicolon, and the rollback joins the
statement. -/
theorem exists_rollback_lost : ¬ ∀ savepoint sql : String, isWord savepoint.toList = true →
    split (rolledBack savepoint sql) = "BEGIN" :: ("SAVEPOINT " ++ savepoint) ::
      (split sql ++ ["ROLLBACK TO SAVEPOINT " ++ savepoint, "COMMIT"]) := by
  intro h
  have hlost := h "trial" "DELETE FROM notes --" (by decide)
  revert hlost
  decide +kernel

end Script

end QueryGate
