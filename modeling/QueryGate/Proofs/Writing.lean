import QueryGate.Proofs.Names
import QueryGate.Proofs.Shapes

/-!
Texts written from lexemes. However words, quoted names and marks are set apart, by white space, by
comments or not at all, they are read again as they are.
-/

namespace QueryGate

open Lexeme

namespace Layout

lemma lexemes_comment {cs a b : List Char} (h : comment? cs = some (a, b)) :
    (ofChars cs).lexemes = (ofChars b).lexemes := by
  rcases hg : gap b with ⟨g, _ | ⟨c, ds⟩⟩
  · rw [ofChars_of_gap hg, ofChars_of_gap (g := a ++ g) (by rw [gap_comment h, hg])]
    rfl
  · rw [lexemes_of_scan hg rfl, lexemes_of_scan (g := a ++ g) (by rw [gap_comment h, hg]) rfl]

/-- White space and comments in front of a text change none of its lexemes. -/
lemma lexemes_gap {g rest : List Char} (h : Gap rest g) :
    (ofChars (g ++ rest)).lexemes = (ofChars rest).lexemes := by
  induction h with
  | nil => rfl
  | blank hc _ ih => rw [List.cons_append, lexemes_cons_blank hc, ih]
  | @line body cs hbody hbreak _ ih =>
    have hbody' : ∀ c ∈ body, decide (c ≠ '\n') = true := fun c hc => by
      rw [decide_eq_true_eq]
      rintro rfl
      exact hbody hc
    have hcomment : comment? ('-' :: '-' :: (body ++ cs) ++ rest) =
        some ('-' :: '-' :: body, cs ++ rest) := by
      obtain ⟨htake, hdrop⟩ := run_append hbody' fun c hc => by
        rw [hbreak c hc]
        rfl
      rw [List.cons_append, List.cons_append, List.append_assoc, comment?, htake, hdrop]
    rw [lexemes_comment hcomment, ih]
  | @block body cs hbody _ ih =>
    have hcomment : comment? ('/' :: '*' :: (body ++ cs) ++ rest) =
        some ('/' :: '*' :: body, cs ++ rest) := by
      rw [List.cons_append, List.cons_append, List.append_assoc, comment?,
        hbody.through_eq (by simp)]
    rw [lexemes_comment hcomment, ih]

end Layout

namespace Lexeme

open Identifier

/-- Words, quoted names, and marks that no comment begins with. -/
inductive Simple : Lexeme → Prop
  | word {w : List Char} : isWord w = true → Simple ⟨.word, w⟩
  | quotedName (name : String) : Simple ⟨.quotedName, (quote name).toList⟩
  | mark {c : Char} : c ∈ ['.', ',', '='] → Simple ⟨markKind c, [c]⟩

/-- Whether a lexeme ends where the rest of a text begins: a word in front of no character of words,
and a quoted name in front of no other quote. -/
def Ends (x : Lexeme) (rest : List Char) : Prop :=
  (x.kind = .word → ∀ c ∈ rest.head?, isWordPart c = false) ∧
    (x.kind = .quotedName → rest.head? ≠ some '"')

/-- Lexemes one after another, with gaps before and behind them. -/
inductive Writes : List Lexeme → List Char → Prop
  | nil {g : List Char} : Gap [] g → Writes [] g
  | cons {x : Lexeme} {xs : List Lexeme} {g rest : List Char} : Gap (x.chars ++ rest) g →
      Ends x rest → Writes xs rest → Writes (x :: xs) (g ++ (x.chars ++ rest))

lemma Simple.lexemes_append {x : Lexeme} (hx : Simple x) {rest : List Char} (hends : Ends x rest) :
    (Layout.ofChars (x.chars ++ rest)).lexemes = x :: (Layout.ofChars rest).lexemes := by
  cases hx with
  | @word w hw =>
    obtain ⟨c, cs, rfl, hc, hcs⟩ := exists_of_isWord hw
    obtain ⟨htake, hdrop⟩ := run_append hcs (hends.1 rfl)
    refine Layout.lexemes_of_scan (gap_word hc (cs ++ rest)) ?_
    rw [scan_word hc, htake, hdrop]
  | quotedName name =>
    dsimp only
    exact lexemes_quote name (hends.2 rfl)
  | @mark c hc =>
    simp only [List.mem_cons, List.not_mem_nil, or_false] at hc
    rcases hc with rfl | rfl | rfl <;>
      exact Layout.lexemes_of_scan (gap_stop (by decide) rfl)
        (scan_mark (by unfold IsMark; decide) rest)

/-- **What is written is read.** -/
theorem lexemes_of_writes {xs : List Lexeme} {cs : List Char} (h : Writes xs cs)
    (hxs : ∀ x ∈ xs, Simple x) : (Layout.ofChars cs).lexemes = xs := by
  induction h with
  | @nil g hg => rw [← List.append_nil g, Layout.lexemes_gap hg, lexemes_nil]
  | cons hg hends _ ih =>
    obtain ⟨hx, hxs⟩ := List.forall_mem_cons.mp hxs
    rw [Layout.lexemes_gap hg, hx.lexemes_append hends, ih hxs]

/-- Lexemes with a space before each of them, but for dots, what follows a dot, and commas. -/
def spell (isGlued : Bool) : List Lexeme → List Char
  | [] => []
  | x :: xs =>
    (if isGlued || x.kind = .dot || x.kind = .comma then [] else [' ']) ++
      (x.chars ++ spell (x.kind = .dot) xs)

/-- A name that is spelled out ends before the next lexeme. -/
lemma ends_spell {x : Lexeme} (hx : x.kind ≠ .dot) {xs : List Lexeme} (hxs : ∀ y ∈ xs, Simple y) :
    Ends x (spell (x.kind = .dot) xs) := by
  have hhead : ∀ c ∈ (spell false xs).head?, isWordPart c = false ∧ c ≠ '"' := by
    intro c hc
    rcases xs with _ | ⟨y, ys⟩
    · cases hc
    · rw [spell, Bool.false_or] at hc
      split at hc
      · next hmark =>
        cases hxs y List.mem_cons_self with
        | word => cases hmark
        | quotedName => cases hmark
        | @mark d hd =>
          obtain rfl : d = c := Option.some.inj hc
          simp only [List.mem_cons, List.not_mem_nil, or_false] at hd
          rcases hd with rfl | rfl | rfl <;> decide
      · obtain rfl : ' ' = c := Option.some.inj hc
        decide
  rw [decide_eq_false hx]
  exact ⟨fun _ c hc => (hhead c hc).1, fun _ hquote => (hhead _ hquote).2 rfl⟩

lemma writes_spell {xs : List Lexeme} (hxs : ∀ x ∈ xs, Simple x) (isGlued : Bool) :
    Writes xs (spell isGlued xs) := by
  induction xs generalizing isGlued with
  | nil => exact .nil .nil
  | cons x xs ih =>
    obtain ⟨hx, hxs⟩ := List.forall_mem_cons.mp hxs
    refine .cons ?_ ?_ (ih hxs _)
    · split
      · exact .nil
      · exact .blank (by decide) .nil
    · by_cases hdot : x.kind = .dot
      · exact ⟨fun h => absurd (hdot.symm.trans h) (by decide),
          fun h => absurd (hdot.symm.trans h) (by decide)⟩
      · exact ends_spell hdot hxs

end Lexeme

end QueryGate
