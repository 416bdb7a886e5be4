import QueryGate.Proofs.Shapes

/-!
Lexemes and gaps partition a text. Each lexeme stands between the byte offsets of its span and is
the longest match of its shape; the spans follow one another, and between them, before the first and
behind the last there are only gaps.
-/

namespace QueryGate

open Lexeme

/-- A part of a text between two byte offsets, and what stands behind it. The offsets never fall
inside a character. -/
def IsPart (sql : String) (span : Nat × Nat) (part rest : String) : Prop :=
  ∃ before, sql = before ++ part ++ rest ∧
    span = (before.utf8ByteSize, (before ++ part).utf8ByteSize)

namespace Layout

/-- The spans before, between and behind some spans, from `start` to `stop`. -/
def gapSpans (start stop : Nat) : List (Nat × Nat) → List (Nat × Nat)
  | [] => [(start, stop)]
  | s :: ss => (start, s.1) :: gapSpans s.2 stop ss

lemma bytes_eq (cs : List Char) : bytes cs = (String.ofList cs).utf8ByteSize := by
  induction cs with
  | nil => rfl
  | cons c cs ih =>
    have hcons : bytes (c :: cs) = c.utf8Size + bytes cs := rfl
    rw [hcons, ih, String.ofList_cons, String.utf8ByteSize_append, String.utf8ByteSize_singleton]

lemma bytes_pos {cs : List Char} (h : cs ≠ []) : 0 < bytes cs := by
  obtain ⟨c, cs, rfl⟩ := List.exists_cons_of_ne_nil h
  have hcons : bytes (c :: cs) = c.utf8Size + bytes cs := rfl
  have hpos := c.utf8Size_pos
  omega

lemma Fits.isLongest {p : Placed} {rest : List Char} (h : Fits p rest) :
    IsLongest p.lexeme rest := by
  obtain ⟨hg, c, body, hb, hs⟩ := h
  rw [hb, List.append_assoc, List.cons_append] at hg
  have hx : p.lexeme = ⟨p.lexeme.kind, c :: body⟩ := by rw [← hb]
  rw [hx]
  exact isLongest_of_scan hs (gap_rest hg).1

lemma Fits.isGap {p : Placed} {rest : List Char} (h : Fits p rest) :
    Gap (p.lexeme.chars ++ rest) p.gap := by
  have hgap := gap_isGap (p.gap ++ p.lexeme.chars ++ rest)
  rw [h.gap] at hgap
  exact hgap

variable {ps : List Placed} {t : List Char}

/-- The text after a lexeme and the gap before it. -/
lemma append_ofList_cons (before : String) (p : Placed) (ps : List Placed) (t : List Char) :
    before ++ String.ofList (toChars ⟨p :: ps, t⟩) =
      before ++ String.ofList p.gap ++ p.lexeme.text ++ String.ofList (toChars ⟨ps, t⟩) := by
  rw [toChars_cons, String.ofList_append, String.ofList_append, text]
  simp only [String.append_assoc]

lemma size_append (before : String) (p : Placed) :
    (before ++ String.ofList p.gap ++ p.lexeme.text).utf8ByteSize =
      before.utf8ByteSize + bytes p.gap + bytes p.lexeme.chars := by
  rw [String.utf8ByteSize_append, String.utf8ByteSize_append, bytes_eq, bytes_eq, text]

lemma forall₂_spansFrom (h : Lexed ⟨ps, t⟩) (before : String) :
    List.Forall₂ (fun x span => ∃ rest,
        IsPart (before ++ String.ofList (toChars ⟨ps, t⟩)) span x.text rest ∧
          IsLongest x rest.toList)
      (ps.map Placed.lexeme) (spansFrom before.utf8ByteSize ps) := by
  induction ps generalizing before with
  | nil => exact .nil
  | cons p ps ih =>
    obtain ⟨hp, hps⟩ := lexed_cons_iff.mp h
    have ih := ih hps (before ++ String.ofList p.gap ++ p.lexeme.text)
    rw [size_append] at ih
    rw [append_ofList_cons]
    refine .cons ⟨String.ofList (toChars ⟨ps, t⟩), ⟨before ++ String.ofList p.gap, rfl, ?_⟩, ?_⟩ ih
    · rw [size_append, String.utf8ByteSize_append, bytes_eq p.gap]
    · rw [String.toList_ofList]
      exact hp.isLongest

lemma gaps_spansFrom (h : Lexed ⟨ps, t⟩) (before : String) :
    ∀ g ∈ gapSpans before.utf8ByteSize (before ++ String.ofList (toChars ⟨ps, t⟩)).utf8ByteSize
        (spansFrom before.utf8ByteSize ps),
      ∃ part rest, IsPart (before ++ String.ofList (toChars ⟨ps, t⟩)) g part rest ∧
        Gap rest.toList part.toList := by
  induction ps generalizing before with
  | nil =>
    have htail : Gap [] t := by
      have hgap := gap_isGap t
      rwa [lexed_nil_iff.mp h] at hgap
    intro g hg
    obtain rfl := List.mem_singleton.mp hg
    refine ⟨String.ofList t, "", ⟨before, ?_, rfl⟩, ?_⟩
    · rw [toChars_nil, String.append_empty]
    · have hnil : "".toList = [] := rfl
      rw [hnil, String.toList_ofList]
      exact htail
  | cons p ps ih =>
    obtain ⟨hp, hps⟩ := lexed_cons_iff.mp h
    have ih := ih hps (before ++ String.ofList p.gap ++ p.lexeme.text)
    rw [size_append] at ih
    rw [append_ofList_cons]
    intro g hg
    rcases List.mem_cons.mp hg with rfl | hg
    · refine ⟨String.ofList p.gap, p.lexeme.text ++ String.ofList (toChars ⟨ps, t⟩),
        ⟨before, ?_, ?_⟩, ?_⟩
      · simp only [String.append_assoc]
      · rw [String.utf8ByteSize_append, bytes_eq p.gap]
      · rw [String.toList_append, text, String.toList_ofList, String.toList_ofList,
          String.toList_ofList]
        exact hp.isGap
    · exact ih g hg

lemma spansFrom_bounds (h : Lexed ⟨ps, t⟩) (start : Nat) :
    (∀ s ∈ spansFrom start ps, start ≤ s.1 ∧ s.1 < s.2) ∧
      (spansFrom start ps).Pairwise fun s s' => s.2 ≤ s'.1 := by
  induction ps generalizing start with
  | nil => exact ⟨by simp [spansFrom], .nil⟩
  | cons p ps ih =>
    obtain ⟨hp, hps⟩ := lexed_cons_iff.mp h
    have hpos := bytes_pos hp.ne_nil
    obtain ⟨hbounds, hordered⟩ := ih hps (start + bytes p.gap + bytes p.lexeme.chars)
    constructor
    · intro s hs
      rcases List.mem_cons.mp hs with rfl | hs
      · simp only
        omega
      · have := hbounds s hs
        omega
    · exact List.pairwise_cons.mpr ⟨fun s hs => (hbounds s hs).1, hordered⟩

/-- **The lexemes of a text and the gaps around them partition it.** -/
theorem ofText_partition (sql : String) :
    List.Forall₂ (fun x span => ∃ rest, IsPart sql span x.text rest ∧ IsLongest x rest.toList)
      (ofText sql).lexemes (ofText sql).spans ∧
    (∀ s ∈ (ofText sql).spans, s.1 < s.2) ∧
    (ofText sql).spans.Pairwise (fun s s' => s.2 ≤ s'.1) ∧
    ∀ g ∈ gapSpans 0 sql.utf8ByteSize (ofText sql).spans,
      ∃ part rest, IsPart sql g part rest ∧ Gap rest.toList part.toList := by
  have hlexed : Lexed ⟨(ofText sql).placed, (ofText sql).tail⟩ := lexed_ofChars sql.toList
  have hsql : "" ++ String.ofList (toChars ⟨(ofText sql).placed, (ofText sql).tail⟩) = sql := by
    have hchars : toChars ⟨(ofText sql).placed, (ofText sql).tail⟩ = sql.toList :=
      toChars_ofChars sql.toList
    rw [hchars, String.empty_append, String.ofList_toList]
  have hlexemes := forall₂_spansFrom hlexed ""
  have hgaps := gaps_spansFrom hlexed ""
  obtain ⟨hbounds, hordered⟩ := spansFrom_bounds hlexed 0
  rw [hsql] at hlexemes hgaps
  exact ⟨hlexemes, fun s hs => (hbounds s hs).2, hordered, hgaps⟩

/-- Offsets count bytes: the letter in the second lexeme takes two. -/
example : (ofText "a 'é' -- b").spans = [(0, 1), (2, 6)] := by
  decide +kernel

end Layout

end QueryGate
