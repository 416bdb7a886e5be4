import Mathlib.Tactic.Common
import QueryGate.Lexeme.Scan

/-!
What a scan takes does not depend on how the text goes on behind the place where it stopped. So
a text can be cut in front of any of its lexemes, and both parts are read as before.
-/

namespace QueryGate

open Lexeme

/-! ### Less text behind the stop -/

lemma run_of_isPrefix {p : Char → Bool} {cs q : List Char} (hq : q <+: cs.dropWhile p) :
    (cs.takeWhile p ++ q).takeWhile p = cs.takeWhile p ∧
      (cs.takeWhile p ++ q).dropWhile p = q := by
  induction cs with
  | nil => simp_all
  | cons c cs ih =>
    by_cases hc : p c = true
    · simp only [List.dropWhile_cons, hc, if_true] at hq
      simpa [hc] using ih hq
    · simp only [List.dropWhile_cons, hc] at hq
      rcases q with _ | ⟨d, q⟩
      · simp [hc]
      · obtain ⟨rfl, -⟩ := List.cons_prefix_cons.mp hq
        simp [hc]

/-- A run ends where another character follows. -/
lemma run_append {p : Char → Bool} {cs rest : List Char} (hcs : ∀ c ∈ cs, p c = true)
    (hrest : ∀ c ∈ rest.head?, p c = false) :
    (cs ++ rest).takeWhile p = cs ∧ (cs ++ rest).dropWhile p = rest := by
  have hstop : rest.takeWhile p = [] ∧ rest.dropWhile p = rest := by
    rcases rest with _ | ⟨d, rest⟩
    · exact ⟨rfl, rfl⟩
    · have hd := hrest d rfl
      simp [hd]
  rw [List.takeWhile_append_of_pos hcs, List.dropWhile_append_of_pos hcs, hstop.1, hstop.2,
    List.append_nil]
  exact ⟨rfl, rfl⟩

namespace Text

lemma through_self_append (mark q : List Char) : through mark (mark ++ q) = (mark, q) := by
  rcases mark with _ | ⟨m, mark⟩
  · cases q <;> simp [through]
  · have h : (m :: mark).isPrefixOf (m :: (mark ++ q)) = true := by
      rw [List.isPrefixOf_iff_prefix, ← List.cons_append]
      exact List.prefix_append _ _
    simp [through, h]

lemma through_of_isPrefix {mark cs a b q : List Char} (h : through mark cs = (a, b))
    (hq : q <+: b) : through mark (a ++ q) = (a, q) := by
  induction cs generalizing a b with
  | nil =>
    cases h
    simp_all [through]
  | cons c cs ih =>
    unfold through at h
    split at h
    · next hm =>
      obtain ⟨t, ht⟩ := List.isPrefixOf_iff_prefix.mp hm
      rw [← ht, List.take_left] at h
      cases h
      exact through_self_append mark q
    · next hm =>
      cases h
      have hpre : (through mark cs).1 ++ q <+: cs := by
        have := List.prefix_append_right_inj (through mark cs).1 |>.mpr hq
        rwa [through_append] at this
      have hm' : ¬ mark.isPrefixOf (c :: ((through mark cs).1 ++ q)) = true := by
        rw [List.isPrefixOf_iff_prefix] at hm ⊢
        exact fun h => hm (h.trans (List.cons_prefix_cons.mpr ⟨rfl, hpre⟩))
      rw [List.cons_append, through, if_neg hm', ih rfl hq]

end Text

namespace Lexeme

lemma comment?_of_isPrefix {cs a b q : List Char} (h : comment? cs = some (a, b)) (hq : q <+: b) :
    comment? (a ++ q) = some (a, q) := by
  unfold comment? at h
  split at h
  · cases h
    obtain ⟨h1, h2⟩ := run_of_isPrefix hq
    simp only [List.cons_append, comment?, h1, h2]
  · next ds =>
    cases h
    simp only [List.cons_append, comment?, Text.through_of_isPrefix rfl hq]
  · cases h

/-- A text that does not begin with a comment does not when it is cut off either. -/
lemma comment?_none_of_isPrefix {cs q : List Char} (h : comment? cs = none) (hq : q <+: cs) :
    comment? q = none := by
  obtain ⟨t, rfl⟩ := hq
  unfold comment?
  split
  · simp [comment?] at h
  · simp [comment?] at h
  · rfl

lemma gap_nil : gap [] = ([], []) := by
  rw [gap.eq_def]

lemma gap_blank {c : Char} (hc : Text.isBlank c = true) (ds : List Char) :
    gap (c :: ds) = (c :: (gap ds).1, (gap ds).2) := by
  rw [gap.eq_def]
  exact if_pos hc

lemma not_blank_of_comment? {c : Char} {ds a b : List Char}
    (h : comment? (c :: ds) = some (a, b)) : ¬ Text.isBlank c = true := by
  unfold comment? at h
  split at h
  · next e => cases e; decide
  · next e => cases e; decide
  · cases h

lemma gap_comment {cs a b : List Char} (h : comment? cs = some (a, b)) :
    gap cs = (a ++ (gap b).1, (gap b).2) := by
  rcases cs with _ | ⟨c, ds⟩
  · cases h
  · rw [gap.eq_def]
    simp only [if_neg (not_blank_of_comment? h)]
    split
    · next e => rw [h] at e; cases e; rfl
    · next e => rw [h] at e; cases e

lemma gap_stop {c : Char} {ds : List Char} (hc : ¬ Text.isBlank c = true)
    (h : comment? (c :: ds) = none) : gap (c :: ds) = ([], c :: ds) := by
  rw [gap.eq_def]
  simp only [if_neg hc]
  split
  · next e => rw [h] at e; cases e
  · rfl

lemma gap_of_isPrefix {cs a b q : List Char} (h : gap cs = (a, b)) (hq : q <+: b) :
    gap (a ++ q) = (a, q) := by
  induction cs using gap.induct generalizing a b with
  | case1 =>
    rw [gap_nil] at h
    cases h
    obtain rfl := List.prefix_nil.mp hq
    exact gap_nil
  | case2 c ds hc ih =>
    rw [gap_blank hc] at h
    cases h
    rw [List.cons_append, gap_blank hc, ih rfl hq]
  | case3 c ds hc x y hxy ih =>
    rw [gap_comment hxy] at h
    cases h
    have hpre : (gap y).1 ++ q <+: y := by
      have := List.prefix_append_right_inj (gap y).1 |>.mpr hq
      rwa [gap_append] at this
    rw [List.append_assoc, gap_comment (comment?_of_isPrefix hxy hpre), ih rfl hq]
  | case4 c ds hc hn =>
    rw [gap_stop hc hn] at h
    cases h
    rcases q with _ | ⟨d, q⟩
    · exact gap_nil
    · have hs := comment?_none_of_isPrefix hn hq
      obtain ⟨rfl, -⟩ := List.cons_prefix_cons.mp hq
      exact gap_stop hc hs

lemma quoted_ne_nil (q c : Char) (cs : List Char) : (quoted q (c :: cs)).1 ≠ [] := by
  rcases cs with _ | ⟨d, cs⟩
  · simp [quoted]
  · rw [quoted]
    split_ifs <;> simp

lemma quoted_of_isPrefix {m : Char} {cs a b q : List Char} (h : quoted m cs = (a, b))
    (hq : q <+: b) : quoted m (a ++ q) = (a, q) := by
  induction cs using quoted.induct m generalizing a b with
  | case1 =>
    cases h
    obtain rfl := List.prefix_nil.mp hq
    rfl
  | case2 c =>
    cases h
    obtain rfl := List.prefix_nil.mp hq
    rfl
  | case3 cs ih =>
    simp only [quoted, if_true] at h
    cases h
    simp only [List.cons_append, quoted, if_true, ih rfl hq]
  | case4 d cs hd =>
    simp only [quoted, if_true, hd, if_false] at h
    cases h
    rcases q with _ | ⟨e, q⟩
    · rfl
    · obtain ⟨rfl, -⟩ := List.cons_prefix_cons.mp hq
      simp [quoted, hd]
  | case5 c d cs hc ih =>
    simp only [quoted, hc, if_false] at h
    cases h
    have ih := ih rfl hq
    obtain ⟨e, t, ht⟩ := List.exists_cons_of_ne_nil (quoted_ne_nil m d cs)
    simp only [ht, List.cons_append] at ih ⊢
    simp [quoted, hc, ih]

lemma isWordPart_of_isDigit {c : Char} (h : c.isDigit = true) : isWordPart c = true := by
  simp [isWordPart, Char.isAlphanum, h]

lemma isWordPart_of_isWordStart {c : Char} (h : isWordStart c = true) : isWordPart c = true := by
  simp only [isWordStart, isWordPart, Char.isAlphanum, Bool.or_eq_true] at h ⊢
  tauto

lemma toNat_of_isAlpha {c : Char} (h : c.isAlpha = true) :
    (65 ≤ c.toNat ∧ c.toNat ≤ 90) ∨ (97 ≤ c.toNat ∧ c.toNat ≤ 122) := by
  change (decide ('A'.val ≤ c.val ∧ c.val ≤ 'Z'.val) ||
    (decide ('a'.val ≤ c.val) && decide (c.val ≤ 'z'.val))) = true at h
  simp only [Bool.or_eq_true, Bool.and_eq_true, decide_eq_true_eq, UInt32.le_iff_toNat_le] at h
  exact h

lemma toNat_of_isDigit {c : Char} (h : c.isDigit = true) : 48 ≤ c.toNat ∧ c.toNat ≤ 57 :=
  Char.isDigit_iff_toNat.mp h

lemma not_isWordStart_of_isDigit {c : Char} (h : c.isDigit = true) : ¬ isWordStart c = true := by
  intro hw
  simp only [isWordStart, Bool.or_eq_true, beq_iff_eq] at hw
  rcases hw with hw | rfl
  · have hletter := toNat_of_isAlpha hw
    have hdigit := toNat_of_isDigit h
    omega
  · exact absurd h (by decide)

/-- The fraction of a number, if a digit follows the point. -/
lemma number_fraction {cs ds : List Char} {d : Char} (e : cs.dropWhile isWordPart = '.' :: d :: ds)
    (hd : d.isDigit = true) :
    number cs = (cs.takeWhile isWordPart ++ '.' :: (d :: ds).takeWhile isWordPart,
      (d :: ds).dropWhile isWordPart) := by
  rw [number, e]
  simp [hd]

/-- A number without a fraction. -/
lemma number_whole {cs : List Char}
    (h : ∀ d ds, cs.dropWhile isWordPart = '.' :: d :: ds → ¬ d.isDigit = true) :
    number cs = (cs.takeWhile isWordPart, cs.dropWhile isWordPart) := by
  unfold number
  split
  · next d ds e =>
    rw [if_neg (h d ds e), e]
  · rfl

lemma number_of_isPrefix {cs a b q : List Char} (h : number cs = (a, b)) (hq : q <+: b) :
    number (a ++ q) = (a, q) := by
  by_cases hf : ∃ d ds, cs.dropWhile isWordPart = '.' :: d :: ds ∧ d.isDigit = true
  · obtain ⟨d, ds, e, hd⟩ := hf
    rw [number_fraction e hd] at h
    cases h
    obtain ⟨h1, h2⟩ := run_of_isPrefix hq
    have hp : '.' :: ((d :: ds).takeWhile isWordPart ++ q) <+: cs.dropWhile isWordPart := by
      rw [e, List.cons_prefix_cons]
      refine ⟨rfl, ?_⟩
      have := List.prefix_append_right_inj ((d :: ds).takeWhile isWordPart) |>.mpr hq
      rwa [List.takeWhile_append_dropWhile] at this
    obtain ⟨h3, h4⟩ := run_of_isPrefix hp
    rw [List.takeWhile_cons_of_pos (isWordPart_of_isDigit hd), List.cons_append] at h1 h2 h3 h4
    rw [List.append_assoc, List.cons_append,
      List.takeWhile_cons_of_pos (isWordPart_of_isDigit hd), List.cons_append,
      number_fraction h4 hd, h3, h1, h2]
  · rw [number_whole fun d ds e hd => hf ⟨d, ds, e, hd⟩] at h
    cases h
    obtain ⟨h1, h2⟩ := run_of_isPrefix hq
    rw [number_whole, h1, h2]
    intro d ds e hd
    rw [h2] at e
    obtain ⟨t, ht⟩ := hq
    exact hf ⟨d, ds ++ t, by rw [← ht, e]; rfl, hd⟩

/-- A tag is what stands in front of a second dollar. -/
lemma dollarTag?_eq_some_iff {cs tag : List Char} :
    dollarTag? cs = some tag ↔
      (∃ rest, cs = tag ++ '$' :: rest) ∧ (∀ c ∈ tag, isTagChar c = true) ∧
        tag.head?.any Char.isDigit = false := by
  have hd : ¬ isTagChar '$' = true := by decide
  simp only [dollarTag?]
  constructor
  · intro h
    split at h
    · next hc =>
      cases h
      simp only [Bool.and_eq_true, decide_eq_true_eq, Bool.not_eq_true', List.head?_eq_some_iff]
        at hc
      obtain ⟨⟨rest, hr⟩, hn⟩ := hc
      refine ⟨⟨rest, ?_⟩, fun c hc => (List.all_eq_true.mp List.all_takeWhile) c hc, hn⟩
      rw [← hr, List.takeWhile_append_dropWhile]
    · cases h
  · rintro ⟨⟨rest, rfl⟩, hall, hn⟩
    have h1 : (tag ++ '$' :: rest).takeWhile isTagChar = tag := by
      rw [List.takeWhile_append_of_pos hall, List.takeWhile_cons_of_neg hd, List.append_nil]
    have h2 : (tag ++ '$' :: rest).dropWhile isTagChar = '$' :: rest := by
      rw [List.dropWhile_append_of_pos hall, List.dropWhile_cons_of_neg hd]
    simp [h1, h2, hn]

lemma dollarTag?_none_of_isPrefix {cs q : List Char} (h : dollarTag? cs = none) (hq : q <+: cs) :
    dollarTag? q = none := by
  obtain ⟨t, rfl⟩ := hq
  rw [Option.eq_none_iff_forall_ne_some] at h ⊢
  intro tag htag
  obtain ⟨⟨rest, rfl⟩, hall⟩ := dollarTag?_eq_some_iff.mp htag
  exact h tag (dollarTag?_eq_some_iff.mpr ⟨⟨rest ++ t, by simp⟩, hall⟩)

/-! ### One lexeme -/

/-- A character that is a lexeme of its own wherever a lexeme begins with it. -/
def IsMark (c : Char) : Prop :=
  ¬ isWordStart c = true ∧ c ≠ '"' ∧ c ≠ '\'' ∧ c ≠ '$' ∧ ¬ c.isDigit = true

/-- What a lexeme can begin with. -/
lemma scan_cases (c : Char) (cs : List Char) :
    isWordStart c = true ∨ c = '"' ∨ c = '\'' ∨
      (c = '$' ∧ ∃ tag rest, cs = tag ++ '$' :: rest ∧ dollarTag? cs = some tag) ∨
      (c = '$' ∧ dollarTag? cs = none) ∨ (¬ isWordStart c = true ∧ c.isDigit = true) ∨
      IsMark c := by
  by_cases hw : isWordStart c = true
  · exact .inl hw
  by_cases hq : c = '"'
  · exact .inr (.inl hq)
  by_cases hs : c = '\''
  · exact .inr (.inr (.inl hs))
  by_cases hd : c = '$'
  · rcases ht : dollarTag? cs with _ | tag
    · exact .inr (.inr (.inr (.inr (.inl ⟨hd, rfl⟩))))
    · obtain ⟨⟨rest, hr⟩, -⟩ := dollarTag?_eq_some_iff.mp ht
      exact .inr (.inr (.inr (.inl ⟨hd, tag, rest, hr, rfl⟩)))
  by_cases hn : c.isDigit = true
  · exact .inr (.inr (.inr (.inr (.inr (.inl ⟨hw, hn⟩)))))
  · exact .inr (.inr (.inr (.inr (.inr (.inr ⟨hw, hq, hs, hd, hn⟩)))))

lemma scan_word {c : Char} (hc : isWordStart c = true) (cs : List Char) :
    scan c cs = (.word, cs.takeWhile isWordPart, cs.dropWhile isWordPart) := by
  rw [scan, if_pos hc]

lemma scan_quotedName (cs : List Char) : scan '"' cs = (.quotedName, quoted '"' cs) := rfl

lemma scan_string (cs : List Char) : scan '\'' cs = (.string, quoted '\'' cs) := rfl

lemma scan_dollar {tag rest : List Char} (h : dollarTag? (tag ++ '$' :: rest) = some tag) :
    scan '$' (tag ++ '$' :: rest) =
      (.string, tag ++ '$' :: (Text.through ('$' :: tag ++ ['$']) rest).1,
        (Text.through ('$' :: tag ++ ['$']) rest).2) := by
  have hw : ¬ isWordStart '$' = true := by decide
  have ht : (tag ++ '$' :: rest).take (tag.length + 1) = tag ++ ['$'] := by
    rw [List.take_length_add_append]; rfl
  have hd : (tag ++ '$' :: rest).drop (tag.length + 1) = rest := by
    rw [List.drop_length_add_append]; rfl
  rw [scan, if_neg hw, if_neg (by decide), if_neg (by decide), if_pos rfl, h]
  simp only [ht, hd, List.append_assoc, List.cons_append, List.nil_append]

lemma scan_lone_dollar {cs : List Char} (h : dollarTag? cs = none) :
    scan '$' cs = (.other, [], cs) := by
  have hw : ¬ isWordStart '$' = true := by decide
  rw [scan, if_neg hw, if_neg (by decide), if_neg (by decide), if_pos rfl, h]

lemma scan_number {c : Char} (hw : ¬ isWordStart c = true) (hc : c.isDigit = true)
    (cs : List Char) : scan c cs = (.number, number cs) := by
  have h1 : c ≠ '"' := by rintro rfl; exact absurd hc (by decide)
  have h2 : c ≠ '\'' := by rintro rfl; exact absurd hc (by decide)
  have h3 : c ≠ '$' := by rintro rfl; exact absurd hc (by decide)
  rw [scan, if_neg hw, if_neg h1, if_neg h2, if_neg h3, if_pos hc]

lemma scan_mark {c : Char} (hc : IsMark c) (cs : List Char) :
    scan c cs = (markKind c, [], cs) := by
  obtain ⟨h1, h2, h3, h4, h5⟩ := hc
  rw [scan, if_neg h1, if_neg h2, if_neg h3, if_neg h4, if_neg h5]

lemma scan_of_isPrefix {c : Char} {cs a b q : List Char} {k : Kind} (h : scan c cs = (k, a, b))
    (hq : q <+: b) : scan c (a ++ q) = (k, a, q) := by
  rcases scan_cases c cs with hc | rfl | rfl | ⟨rfl, tag, rest, rfl, ht⟩ | ⟨rfl, ht⟩ | ⟨hw, hc⟩ |
    hc
  · rw [scan_word hc] at h
    cases h
    obtain ⟨h1, h2⟩ := run_of_isPrefix hq
    rw [scan_word hc, h1, h2]
  · rw [scan_quotedName, Prod.mk.injEq] at h
    obtain ⟨rfl, h⟩ := h
    rw [scan_quotedName, quoted_of_isPrefix h hq]
  · rw [scan_string, Prod.mk.injEq] at h
    obtain ⟨rfl, h⟩ := h
    rw [scan_string, quoted_of_isPrefix h hq]
  · rw [scan_dollar ht] at h
    cases h
    obtain ⟨-, hall⟩ := dollarTag?_eq_some_iff.mp ht
    rw [List.append_assoc, List.cons_append,
      scan_dollar (dollarTag?_eq_some_iff.mpr ⟨⟨_, rfl⟩, hall⟩), Text.through_of_isPrefix rfl hq]
  · rw [scan_lone_dollar ht] at h
    cases h
    exact scan_lone_dollar (dollarTag?_none_of_isPrefix ht hq)
  · rw [scan_number hw hc, Prod.mk.injEq] at h
    obtain ⟨rfl, h⟩ := h
    rw [scan_number hw hc, number_of_isPrefix h hq]
  · rw [scan_mark hc] at h
    cases h
    exact scan_mark hc q

end Lexeme

/-! ### Layouts -/

namespace Layout

lemma ofChars_of_gap {cs g : List Char} (h : gap cs = (g, [])) : ofChars cs = ⟨[], g⟩ := by
  rw [ofChars]
  split
  · next e => rw [h] at e; cases e; rfl
  · next e => rw [h] at e; cases e

lemma ofChars_of_scan {cs g ds body rest : List Char} {c : Char} {k : Kind}
    (hg : gap cs = (g, c :: ds)) (hs : scan c ds = (k, body, rest)) :
    ofChars cs = ⟨⟨g, k, c :: body⟩ :: (ofChars rest).placed, (ofChars rest).tail⟩ := by
  rw [ofChars]
  split
  · next e => rw [hg] at e; cases e
  · next e =>
    rw [hg] at e
    cases e
    simp only [hs]

/-- A layout that is what its own text is read as. -/
def Lexed (l : Layout) : Prop := ofChars l.toChars = l

lemma lexed_ofChars (cs : List Char) : (ofChars cs).Lexed := by
  rw [Lexed, toChars_ofChars]

lemma toChars_nil (t : List Char) : toChars ⟨[], t⟩ = t := rfl

lemma toChars_cons (p : Placed) (ps : List Placed) (t : List Char) :
    toChars ⟨p :: ps, t⟩ = p.gap ++ p.lexeme.chars ++ toChars ⟨ps, t⟩ := by
  simp [toChars]

lemma lexed_nil_iff {t : List Char} : Lexed ⟨[], t⟩ ↔ gap t = (t, []) := by
  rw [Lexed, toChars_nil]
  constructor
  · intro h
    rcases hg : gap t with ⟨g, _ | ⟨c, ds⟩⟩
    · rw [ofChars_of_gap hg] at h
      cases h
      rfl
    · rw [ofChars_of_scan hg rfl] at h
      cases h
  · exact ofChars_of_gap

/-- What it takes to put a lexeme before a layout. -/
structure Fits (p : Placed) (rest : List Char) : Prop where
  gap : Lexeme.gap (p.gap ++ p.lexeme.chars ++ rest) = (p.gap, p.lexeme.chars ++ rest)
  scan : ∃ c body, p.lexeme.chars = c :: body ∧
    Lexeme.scan c (body ++ rest) = (p.lexeme.kind, body, rest)

lemma Fits.ne_nil {p : Placed} {rest : List Char} (h : Fits p rest) : p.lexeme.chars ≠ [] := by
  obtain ⟨-, c, body, hb, -⟩ := h
  simp [hb]

lemma lexed_cons_iff {p : Placed} {ps : List Placed} {t : List Char} :
    Lexed ⟨p :: ps, t⟩ ↔ Fits p (toChars ⟨ps, t⟩) ∧ Lexed ⟨ps, t⟩ := by
  constructor
  · intro h
    rw [Lexed] at h
    have hcs := toChars_cons p ps t
    generalize toChars ⟨p :: ps, t⟩ = cs at h hcs
    rcases hg : gap cs with ⟨g, _ | ⟨c, ds⟩⟩
    · rw [ofChars_of_gap hg] at h
      cases h
    · obtain ⟨k, body, rest, hs⟩ : ∃ k body rest, scan c ds = (k, body, rest) := ⟨_, _, _, rfl⟩
      rw [ofChars_of_scan hg hs] at h
      obtain ⟨h1, rfl⟩ := Layout.mk.inj h
      obtain ⟨rfl, rfl⟩ := List.cons.inj h1
      have hrest : toChars ⟨(ofChars rest).placed, (ofChars rest).tail⟩ = rest :=
        toChars_ofChars rest
      have hds := scan_append c ds
      simp only [hs] at hds
      have hap := gap_append cs
      simp only [hg] at hap
      refine ⟨⟨?_, c, body, rfl, ?_⟩, ?_⟩
      · rw [← hcs, hg, hrest, List.cons_append, hds]
      · rw [hrest, hds, hs]
      · rw [Lexed, hrest]
  · rintro ⟨⟨hg, c, body, hb, hs⟩, hl⟩
    rw [hb, List.cons_append] at hg
    rw [Lexed, toChars_cons, hb, ofChars_of_scan hg hs, hl, ← hb]

end Layout

end QueryGate
