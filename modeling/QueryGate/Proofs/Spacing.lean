import QueryGate.Proofs.Statements

/-!
White space and comments carry no meaning. The lexemes of a text, written with one space between
them, are read as the same lexemes: a lexeme with another behind it is closed, so that a space ends
it, and a gap never begins in the middle of a lexeme.
-/

namespace QueryGate

open Lexeme

namespace Lexeme

lemma gap_blanks {g : List Char} (hg : ∀ c ∈ g, Text.isBlank c = true) (cs : List Char) :
    gap (g ++ cs) = (g ++ (gap cs).1, (gap cs).2) := by
  induction g with
  | nil => rfl
  | cons c g ih =>
    obtain ⟨hc, hg⟩ := List.forall_mem_cons.mp hg
    rw [List.cons_append, gap_blank hc, ih hg, List.cons_append]

lemma isDelimiter_space : IsDelimiter ' ' := isDelimiter_of_blank (by decide)

/-- A space ends a closed lexeme. -/
lemma scan_space {c : Char} {body : List Char} {k : Kind} (h : scan c body = (k, body, []))
    (hopen : isOpen ⟨k, c :: body⟩ = false) (s : List Char) :
    scan c (body ++ ' ' :: s) = (k, body, ' ' :: s) := by
  obtain ⟨r, hr, hgo⟩ := scan_goesOn isDelimiter_space h s
  rcases goesOn_iff.mp hgo with ⟨-, rfl⟩ | ⟨ho, -⟩
  · exact hr
  · rw [hopen] at ho
    cases ho

end Lexeme

namespace Layout

/-- A lexeme that does not end its text is closed. -/
lemma Fits.not_isOpen {p : Placed} {rest : List Char} (h : Fits p rest) (hrest : rest ≠ []) :
    p.lexeme.isOpen = false := by
  obtain ⟨-, c, body, hb, hs⟩ := h
  obtain ⟨r, -, hgo⟩ := scan_goesOn isDelimiter_semicolon hs []
  have hp : p.lexeme = ⟨p.lexeme.kind, c :: body⟩ := by rw [← hb]
  rw [hp]
  rcases goesOn_iff.mp hgo with ⟨ho, -⟩ | ⟨-, hnil, -⟩
  · exact ho
  · exact (hrest hnil).elim

/-- A lexeme may be moved behind other white space, and in front of a space or the end of a text. -/
lemma Fits.respaced {p : Placed} {g rest after : List Char} (h : Fits p rest)
    (hg : ∀ c ∈ g, Text.isBlank c = true)
    (hafter : after = [] ∨ (rest ≠ [] ∧ ∃ s, after = ' ' :: s)) :
    Fits ⟨g, p.lexeme⟩ after := by
  obtain ⟨hgap, c, body, hb, hs⟩ := id h
  have hscan : Lexeme.scan c (body ++ after) = (p.lexeme.kind, body, after) := by
    have halone : Lexeme.scan c body = (p.lexeme.kind, body, []) := by
      simpa using scan_of_isPrefix hs List.nil_prefix
    rcases hafter with rfl | ⟨hrest, s, rfl⟩
    · rw [List.append_nil]
      exact halone
    · refine scan_space halone ?_ s
      rw [← hb]
      exact h.not_isOpen hrest
  have hbegin : Lexeme.gap (c :: (body ++ after)) = ([], c :: (body ++ after)) := by
    rw [hb, List.append_assoc, List.cons_append] at hgap
    obtain ⟨hstop, hblank⟩ := gap_rest hgap
    have halone : comment? (c :: body) = none :=
      comment?_none_of_isPrefix (comment?_of_gap hstop) ⟨rest, rfl⟩
    refine gap_stop hblank ?_
    rcases hafter with rfl | ⟨-, s, rfl⟩
    · rw [List.append_nil]
      exact halone
    · exact comment?_none_append isDelimiter_space halone s
  refine ⟨?_, c, body, hb, hscan⟩
  simp only [hb]
  rw [List.append_assoc, List.cons_append, gap_blanks hg, hbegin, List.append_nil]

/-- Lexemes with a space before each of them but the first, which has the gap `g`. -/
def spaced (g : List Char) : List Lexeme → List Placed
  | [] => []
  | x :: xs => ⟨g, x⟩ :: spaced [' '] xs

lemma map_lexeme_spaced (g : List Char) (xs : List Lexeme) :
    (spaced g xs).map Placed.lexeme = xs := by
  induction xs generalizing g with
  | nil => rfl
  | cons x xs ih => rw [spaced, List.map_cons, ih]

lemma toChars_spaced (x : Lexeme) (xs : List Lexeme) (g : List Char) :
    toChars ⟨spaced g (x :: xs), []⟩ =
      g ++ [' '].intercalate ((x :: xs).map Lexeme.chars) := by
  induction xs generalizing x g with
  | nil => simp [spaced, toChars_cons, toChars_nil]
  | cons y xs ih =>
    rw [spaced, toChars_cons, ih y [' '], List.map_cons, List.map_cons, List.map_cons,
      List.intercalate_cons_cons]
    simp

lemma lexed_spaced {ps : List Placed} {t g : List Char} (h : Lexed ⟨ps, t⟩)
    (hg : ∀ c ∈ g, Text.isBlank c = true) : Lexed ⟨spaced g (ps.map Placed.lexeme), []⟩ := by
  induction ps generalizing g with
  | nil => exact lexed_nil_iff.mpr gap_nil
  | cons p ps ih =>
    obtain ⟨hp, hps⟩ := lexed_cons_iff.mp h
    have hspace : ∀ c ∈ [' '], Text.isBlank c = true := List.forall_mem_singleton.mpr (by decide)
    refine lexed_cons_iff.mpr ⟨hp.respaced hg ?_, ih hps hspace⟩
    rcases ps with _ | ⟨q, ps⟩
    · exact .inl rfl
    · obtain ⟨hq, -⟩ := lexed_cons_iff.mp hps
      refine .inr ⟨?_, ?_⟩
      · simp [toChars_cons, hq.ne_nil]
      · rw [List.map_cons, toChars_spaced]
        exact ⟨_, rfl⟩

end Layout

/-- The lexemes of a text with single spaces between them. -/
def Lexeme.respaced (sql : String) : String :=
  Text.join " " ((Lexeme.ofText sql).map text)

lemma Lexeme.toList_respaced (sql : String) :
    (respaced sql).toList = Layout.toChars ⟨Layout.spaced [] (Lexeme.ofText sql), []⟩ := by
  have hmap : ((Lexeme.ofText sql).map text).map String.toList =
      (Lexeme.ofText sql).map Lexeme.chars := by
    rw [List.map_map]
    exact List.map_congr_left fun x _ => String.toList_ofList
  rw [respaced, Text.join, String.toList_intercalate, hmap]
  rcases Lexeme.ofText sql with _ | ⟨x, xs⟩
  · rfl
  · rw [Layout.toChars_spaced, List.nil_append]
    rfl

/-- **White space and comments carry no meaning.** A text and its lexemes with single spaces between
them have the same lexemes, and refer to the same tables and columns. -/
theorem Lexeme.ofText_respaced (sql : String) :
    Lexeme.ofText (respaced sql) = Lexeme.ofText sql ∧
      ∀ words, Extraction.ofText words (respaced sql) = Extraction.ofText words sql := by
  have hlexed : Layout.Lexed ⟨Layout.spaced [] (Lexeme.ofText sql), []⟩ :=
    Layout.lexed_spaced (Layout.lexed_ofChars sql.toList) (by simp)
  have hsame : Lexeme.ofText (respaced sql) = Lexeme.ofText sql := by
    rw [Lexeme.ofText, Layout.ofText, toList_respaced, hlexed]
    exact Layout.map_lexeme_spaced [] _
  refine ⟨hsame, fun words => ?_⟩
  have hwords (t : String) :
      Extraction.ofText words t = Extraction.ofLexemes words (Lexeme.ofText t) := rfl
  rw [hwords, hwords, hsame]

/-- The gaps of a text become single spaces, and a literal that is open at its end stays open. -/
example : Lexeme.respaced "SELECT a--x\n.b/**/||'c" = "SELECT a . b | | 'c" := by
  decide +kernel

end QueryGate
