import QueryGate.Proofs.LowerCase
import QueryGate.Proofs.Trimming

/-!
Words, and names in quotes. A name in normal form that is put in quotes is one lexeme, and its
normal form is the name again.
-/

namespace QueryGate

namespace Identifier

/-- The characters of a name between its quotes. -/
def doubled (cs : List Char) : List Char := cs.flatMap fun c => if c = '"' then ['"', '"'] else [c]

lemma doubled_quote (cs : List Char) : doubled ('"' :: cs) = '"' :: '"' :: doubled cs := by
  simp [doubled]

lemma doubled_cons {c : Char} (hc : c ≠ '"') (cs : List Char) :
    doubled (c :: cs) = c :: doubled cs := by
  simp [doubled, hc]

lemma toList_quote (name : String) :
    (quote name).toList = '"' :: (doubled name.toList ++ ['"']) := by
  simp [quote, doubled]

lemma undouble_doubled (cs : List Char) : undouble (doubled cs) = cs := by
  induction cs with
  | nil => rfl
  | cons c cs ih =>
    by_cases hc : c = '"'
    · rw [hc, doubled_quote, undouble, ih]
    · rw [doubled_cons hc, undouble, ih]
      exact fun _ h => (hc h).elim

lemma trimChars_of_not_blank {c d : Char} (cs : List Char) (hc : ¬ Text.isBlank c = true)
    (hd : ¬ Text.isBlank d = true) : Text.trimChars (c :: (cs ++ [d])) = c :: (cs ++ [d]) :=
  Text.trimChars_eq_self (by simpa using hc) (by simpa [List.getLast?_cons] using hd)

/-- The quotes keep a name as it is, but for its case. -/
lemma normalize_quote_eq_lower (name : String) : normalize (quote name) = Text.lower name := by
  have hq : ¬ Text.isBlank '"' = true := by decide
  have hu (cs : List Char) : unquote ('"' :: (doubled cs ++ ['"'])) = cs := by
    simp [unquote, undouble_doubled]
  rw [normalize, normalizeChars, toList_quote, trimChars_of_not_blank _ hq hq, hu, Text.lower]

/-- **A name in normal form comes back from its quotes.** -/
theorem normalize_quote (name : String) : normalize (quote (normalize name)) = normalize name := by
  rw [normalize_quote_eq_lower, Text.lower, normalize, String.toList_ofList, normalizeChars,
    Text.lowerFrom_lowerFrom]

end Identifier

namespace Lexeme

/-! ### Words -/

/-- Whether a text is a single word. -/
def isWord : List Char → Bool
  | [] => false
  | c :: cs => isWordStart c && cs.all isWordPart

lemma exists_of_isWord {w : List Char} (h : isWord w = true) :
    ∃ c cs, w = c :: cs ∧ isWordStart c = true ∧ ∀ d ∈ cs, isWordPart d = true := by
  rcases w with _ | ⟨c, cs⟩
  · cases h
  · rw [isWord, Bool.and_eq_true, List.all_eq_true] at h
    exact ⟨c, cs, rfl, h⟩

lemma isWordPart_of_isWord {w : List Char} (h : isWord w = true) :
    ∀ c ∈ w, isWordPart c = true := by
  obtain ⟨c, cs, rfl, hc, hcs⟩ := exists_of_isWord h
  exact List.forall_mem_cons.mpr ⟨isWordPart_of_isWordStart hc, hcs⟩

lemma gap_word {c : Char} (hc : isWordStart c = true) (cs : List Char) :
    gap (c :: cs) = ([], c :: cs) := by
  refine gap_stop (fun hb => not_wordPart_of_blank hb (isWordPart_of_isWordStart hc)) ?_
  unfold comment?
  split
  · next e => cases e; exact absurd hc (by decide)
  · next e => cases e; exact absurd hc (by decide)
  · rfl

lemma scan_isWord {c : Char} {cs : List Char} (hc : isWordStart c = true)
    (hcs : ∀ d ∈ cs, isWordPart d = true) {x : Char} (hx : ¬ isWordPart x = true)
    (s : List Char) : scan c (cs ++ x :: s) = (.word, cs, x :: s) := by
  rw [scan_word hc, List.takeWhile_append_of_pos hcs, List.dropWhile_append_of_pos hcs,
    List.takeWhile_cons_of_neg hx, List.dropWhile_cons_of_neg hx, List.append_nil]

lemma lexemes_word {w : List Char} (hw : isWord w = true) {x : Char} (hx : ¬ isWordPart x = true)
    (s : List Char) : (Layout.ofChars (w ++ x :: s)).lexemes =
      ⟨.word, w⟩ :: (Layout.ofChars (x :: s)).lexemes := by
  obtain ⟨c, cs, rfl, hc, hcs⟩ := exists_of_isWord hw
  rw [List.cons_append, Layout.lexemes_of_scan (gap_word hc _) (scan_isWord hc hcs hx s)]

/-! ### Quoted names -/

open Identifier

lemma quoted_doubled (cs rest : List Char) (h : rest.head? ≠ some '"') :
    quoted '"' (doubled cs ++ '"' :: rest) = (doubled cs ++ ['"'], rest) := by
  induction cs with
  | nil =>
    rcases rest with _ | ⟨d, rest⟩
    · rfl
    · have hd : d ≠ '"' := by simpa using h
      simp [doubled, quoted, hd]
  | cons c cs ih =>
    by_cases hc : c = '"'
    · rw [hc, doubled_quote, List.cons_append, List.cons_append, quoted, if_pos rfl, if_pos rfl, ih]
      rfl
    · obtain ⟨d, ds, hds⟩ : ∃ d ds, doubled cs ++ '"' :: rest = d :: ds :=
        List.exists_cons_of_ne_nil (by simp)
      rw [doubled_cons hc, List.cons_append, hds, quoted, if_neg hc, ← hds, ih]
      rfl

lemma lexemes_quote (name : String) {rest : List Char} (h : rest.head? ≠ some '"') :
    (Layout.ofChars ((quote name).toList ++ rest)).lexemes =
      ⟨.quotedName, (quote name).toList⟩ :: (Layout.ofChars rest).lexemes := by
  have hgap (cs : List Char) : gap ('"' :: cs) = ([], '"' :: cs) := gap_stop (by decide) rfl
  have hscan : scan '"' (doubled name.toList ++ '"' :: rest) =
      (.quotedName, doubled name.toList ++ ['"'], rest) := by
    rw [scan_quotedName, quoted_doubled _ _ h]
  rw [toList_quote, List.cons_append, List.append_assoc, List.singleton_append,
    Layout.lexemes_of_scan (hgap _) hscan]

lemma lexemes_dot (rest : List Char) :
    (Layout.ofChars ('.' :: rest)).lexemes = ⟨.dot, ['.']⟩ :: (Layout.ofChars rest).lexemes :=
  Layout.lexemes_of_scan (gap_stop (by decide) rfl) (scan_mark (by unfold IsMark; decide) rest)

lemma lexemes_nil : (Layout.ofChars []).lexemes = [] := by
  rw [Layout.ofChars_of_gap gap_nil]
  rfl

/-- A quoted table and a quoted column with a dot between them. -/
def dotted (table column : String) : String := quote table ++ "." ++ quote column

lemma lexemes_dotted (table column : String) {rest : List Char} (h : rest.head? ≠ some '"') :
    (Layout.ofChars ((dotted table column).toList ++ rest)).lexemes =
      ⟨.quotedName, (quote table).toList⟩ :: ⟨.dot, ['.']⟩ ::
        ⟨.quotedName, (quote column).toList⟩ :: (Layout.ofChars rest).lexemes := by
  have htext : (dotted table column).toList ++ rest =
      (quote table).toList ++ '.' :: ((quote column).toList ++ rest) := by
    simp [dotted]
  rw [htext, lexemes_quote table (by simp), lexemes_dot, lexemes_quote column h]

lemma ofText_dotted (table column : String) :
    ofText (dotted table column) =
      [⟨.quotedName, (quote table).toList⟩, ⟨.dot, ['.']⟩,
        ⟨.quotedName, (quote column).toList⟩] := by
  have hend : ([] : List Char).head? ≠ some '"' := by simp
  have h := lexemes_dotted table column hend
  rwa [List.append_nil, lexemes_nil] at h

lemma identifier?_quoted (name : String) :
    (⟨.quotedName, (quote name).toList⟩ : Lexeme).identifier? = some (Text.lower name) := by
  simp [identifier?, isName, text, normalize_quote_eq_lower]

/-- A word stands for itself, but for its case. -/
lemma identifier?_word {w : String} (hw : isWord w.toList = true) :
    (⟨.word, w.toList⟩ : Lexeme).identifier? = some (Text.lower w) := by
  obtain ⟨c, cs, e, hc, -⟩ := exists_of_isWord hw
  have hblank : ∀ d ∈ w.toList, ¬ Text.isBlank d = true := fun d hd hb =>
    not_wordPart_of_blank hb (isWordPart_of_isWord hw d hd)
  have htrim : Text.trimChars w.toList = w.toList :=
    Text.trimChars_eq_self (fun d hd => hblank d (List.mem_of_head? hd))
      fun d hd => hblank d (List.mem_of_getLast? hd)
  have hunquote : unquote w.toList = w.toList := by
    rw [e, unquote]
    rintro inner h
    cases h
    exact absurd hc (by decide)
  simp [identifier?, isName, text, Identifier.normalize, normalizeChars, htrim, hunquote, Text.lower]

lemma isKeyword_quotedName (cs : List Char) (keyword : String) :
    (⟨.quotedName, cs⟩ : Lexeme).isKeyword keyword = false := rfl

end Lexeme

end QueryGate
