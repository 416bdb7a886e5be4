import Mathlib.Data.List.Forall2
import QueryGate.Proofs.Endings
import QueryGate.Reference

/-!
White space at the ends of a text. In front it only widens the first gap. Behind, it widens the
last gap, or the last lexeme when that is a literal or a quoted name without a closing quote; the
lexemes before and after then still mean the same.
-/

namespace QueryGate

/-! ### One more character -/

/-- How a scan of a text goes on to one more character: it stops where it stopped, or it took all
of the text and takes the character too. -/
def Extends (x : Char) (r r' : List Char × List Char) : Prop :=
  r' = (r.1, r.2 ++ [x]) ∨ (r.2 = [] ∧ r' = (r.1 ++ [x], []))

lemma Extends.prepend {x : Char} {r r' : List Char × List Char} (h : Extends x r r')
    (a : List Char) : Extends x (a ++ r.1, r.2) (a ++ r'.1, r'.2) := by
  rcases h with rfl | ⟨h, rfl⟩
  · exact .inl rfl
  · exact .inr ⟨h, by simp⟩

lemma run_snoc (p : Char → Bool) (cs : List Char) (x : Char) :
    Extends x (cs.takeWhile p, cs.dropWhile p)
      ((cs ++ [x]).takeWhile p, (cs ++ [x]).dropWhile p) := by
  induction cs with
  | nil => by_cases hx : p x = true <;> simp [Extends, hx]
  | cons c cs ih =>
    by_cases hc : p c = true
    · simpa [hc] using ih.prepend [c]
    · simp [Extends, hc]

lemma GoesOn.extends {x : Char} {isOpen : Bool} {r r' : List Char × List Char}
    (h : GoesOn x [] isOpen r r') : Extends x r r' := by
  obtain ⟨a, b⟩ := r
  rcases goesOn_iff.mp h with ⟨-, rfl⟩ | ⟨-, rfl, c, d, hcd, rfl⟩
  · exact .inl rfl
  · obtain ⟨rfl, rfl⟩ := List.append_eq_nil_iff.mp hcd
    exact .inr ⟨rfl, rfl⟩

namespace Text

/-! ### Trimmed text -/

lemma trimStart_cons_blank {c : Char} (hc : isBlank c = true) (cs : List Char) :
    trimStart (c :: cs) = trimStart cs := by
  rw [trimStart, List.dropWhile_cons_of_pos hc, trimStart]

lemma trimEnd_snoc_blank {x : Char} (hx : isBlank x = true) (cs : List Char) :
    trimEnd (cs ++ [x]) = trimEnd cs := by
  rw [trimEnd, List.reverse_append, List.reverse_singleton, List.singleton_append,
    List.dropWhile_cons_of_pos hx, trimEnd]

lemma trimChars_snoc_blank {x : Char} (hx : isBlank x = true) (cs : List Char) :
    trimChars (cs ++ [x]) = trimChars cs := by
  unfold trimChars trimStart
  rcases run_snoc isBlank cs x with h | ⟨h0, h⟩
  · rw [(Prod.mk.inj h).2, trimEnd_snoc_blank hx]
  · exact (congrArg trimEnd (Prod.mk.inj h).2).trans (congrArg trimEnd h0).symm

/-- Nothing but white space is lost at the end of a text. -/
lemma trimEnd_append (cs : List Char) :
    ∃ w, trimEnd cs ++ w = cs ∧ ∀ x ∈ w, isBlank x = true := by
  refine ⟨(cs.reverse.takeWhile isBlank).reverse, ?_, fun x hx => ?_⟩
  · rw [trimEnd, ← List.reverse_append, List.takeWhile_append_dropWhile, List.reverse_reverse]
  · exact List.all_eq_true.mp List.all_takeWhile x (List.mem_reverse.mp hx)

lemma blank_of_trimChars_eq_nil {cs : List Char} (h : trimChars cs = []) :
    ∀ c ∈ cs, isBlank c = true := by
  obtain ⟨w, hw, hb⟩ := trimEnd_append (trimStart cs)
  rw [trimChars] at h
  rw [h, List.nil_append, trimStart] at hw
  intro c hc
  rw [← List.takeWhile_append_dropWhile (p := isBlank) (l := cs), List.mem_append] at hc
  rcases hc with hc | hc
  · exact List.all_eq_true.mp List.all_takeWhile c hc
  · exact hb c (hw ▸ hc)

lemma trimChars_eq_self {cs : List Char} (hs : ∀ c ∈ cs.head?, ¬ isBlank c = true)
    (he : ∀ c ∈ cs.getLast?, ¬ isBlank c = true) : trimChars cs = cs := by
  have h1 : trimStart cs = cs := by
    rcases cs with _ | ⟨c, cs⟩
    · rfl
    · exact List.dropWhile_cons_of_neg (hs c rfl)
  rcases List.eq_nil_or_concat cs with rfl | ⟨cs, d, rfl⟩
  · rfl
  · rw [List.concat_eq_append] at h1 he ⊢
    rw [trimChars, h1, trimEnd, List.reverse_append, List.reverse_singleton,
      List.singleton_append, List.dropWhile_cons_of_neg (he d (by simp)), List.reverse_cons,
      List.reverse_reverse]

lemma trimChars_cons_blank {x : Char} (hx : isBlank x = true) (cs : List Char) :
    trimChars (x :: cs) = trimChars cs := by
  rw [trimChars, trimStart_cons_blank hx, trimChars]

lemma trimChars_sublist (cs : List Char) : (trimChars cs).Sublist cs := by
  have hend (ds : List Char) : (trimEnd ds).Sublist ds := by
    simpa [trimEnd] using (List.dropWhile_sublist (l := ds.reverse) isBlank).reverse
  exact (hend _).trans (List.dropWhile_sublist _)

lemma trimChars_eq_self_iff {cs : List Char} : trimChars cs = cs ↔
    (∀ c ∈ cs.head?, ¬ isBlank c = true) ∧ ∀ c ∈ cs.getLast?, ¬ isBlank c = true := by
  have hshort (ds : List Char) : (trimChars ds).length ≤ ds.length :=
    (trimChars_sublist ds).length_le
  refine ⟨fun h => ⟨fun c hc hb => ?_, fun c hc hb => ?_⟩, fun h => trimChars_eq_self h.1 h.2⟩
  · obtain ⟨ds, rfl⟩ := List.head?_eq_some_iff.mp hc
    have := hshort ds
    rw [← trimChars_cons_blank hb, h, List.length_cons] at this
    omega
  · obtain ⟨ds, rfl⟩ := List.getLast?_eq_some_iff.mp hc
    have := hshort ds
    rw [← trimChars_snoc_blank hb, h, List.length_append, List.length_singleton] at this
    omega

lemma trimChars_trimChars (cs : List Char) : trimChars (trimChars cs) = trimChars cs := by
  induction hn : cs.length using Nat.strongRecOn generalizing cs with
  | _ n ih =>
    subst hn
    by_cases h : trimChars cs = cs
    · rw [h, h]
    rw [trimChars_eq_self_iff, not_and_or] at h
    simp only [not_forall, not_not] at h
    rcases h with ⟨c, hc, hb⟩ | ⟨c, hc, hb⟩
    · obtain ⟨ds, rfl⟩ := List.head?_eq_some_iff.mp hc
      rw [trimChars_cons_blank hb]
      exact ih _ (by simp) _ rfl
    · obtain ⟨ds, rfl⟩ := List.getLast?_eq_some_iff.mp hc
      rw [trimChars_snoc_blank hb]
      exact ih _ (by simp) _ rfl

lemma toList_trim (text : String) : (trim text).toList = trimChars text.toList :=
  String.toList_ofList

lemma trim_trim (text : String) : trim (trim text) = trim text := by
  apply String.toList_injective
  rw [toList_trim, toList_trim, trimChars_trimChars]

end Text

namespace Lexeme

lemma not_mem_of_blank {x : Char} (hx : Text.isBlank x = true) {cs : List Char}
    (h : cs.any Text.isBlank = false) : x ∉ cs :=
  fun hm => List.any_eq_false.mp h x hm hx

lemma toNat_of_isAlphanum {c : Char} (h : c.isAlphanum = true) :
    (48 ≤ c.toNat ∧ c.toNat ≤ 57) ∨ (65 ≤ c.toNat ∧ c.toNat ≤ 90) ∨
      (97 ≤ c.toNat ∧ c.toNat ≤ 122) := by
  simp only [Char.isAlphanum, Bool.or_eq_true] at h
  rcases h with h | h
  · exact .inr (toNat_of_isAlpha h)
  · exact .inl (toNat_of_isDigit h)

lemma not_wordPart_of_blank {x : Char} (hx : Text.isBlank x = true) : ¬ isWordPart x = true := by
  intro hw
  simp only [isWordPart, Bool.or_eq_true, beq_iff_eq] at hw
  rcases hw with (hw | rfl) | rfl
  · have := toNat_of_isAlphanum hw
    simp only [Text.isBlank, Bool.or_eq_true, Bool.and_eq_true, decide_eq_true_eq,
      beq_iff_eq] at hx
    omega
  · exact absurd hx (by decide)
  · exact absurd hx (by decide)

lemma isDelimiter_of_blank {x : Char} (hx : Text.isBlank x = true) : IsDelimiter x :=
  ⟨not_wordPart_of_blank hx, not_mem_of_blank hx (by decide)⟩

lemma comment?_snoc {cs a b : List Char} {x : Char} (hx : Text.isBlank x = true)
    (h : comment? cs = some (a, b)) :
    ∃ r, comment? (cs ++ [x]) = some r ∧ Extends x (a, b) r := by
  unfold comment? at h
  split at h
  · next ds =>
    cases h
    exact ⟨_, rfl, (run_snoc _ ds x).prepend ['-', '-']⟩
  · next ds =>
    cases h
    have hm : x ∉ ['*', '/'] := not_mem_of_blank hx (by decide)
    exact ⟨_, rfl, (Text.through_goesOn (by simp) hm ds []).extends.prepend ['/', '*']⟩
  · cases h

/-- A gap up to the end of a text takes white space that is added, and a shorter one does not. -/
lemma gap_snoc {x : Char} (hx : Text.isBlank x = true) (cs : List Char) :
    Extends x (gap cs) (gap (cs ++ [x])) ∧ ((gap cs).2 = [] → (gap (cs ++ [x])).2 = []) := by
  induction cs using gap.induct with
  | case1 =>
    rw [List.nil_append, gap_blank hx, gap_nil]
    simp [Extends]
  | case2 c ds hc ih =>
    rw [List.cons_append, gap_blank hc, gap_blank hc]
    exact ⟨ih.1.prepend [c], ih.2⟩
  | case3 c ds hc a b hab ih =>
    obtain ⟨r, hr, he⟩ := comment?_snoc hx hab
    rw [gap_comment hab, gap_comment hr]
    rcases he with rfl | ⟨rfl, rfl⟩
    · exact ⟨ih.1.prepend a, ih.2⟩
    · simp [Extends, gap_nil]
  | case4 c ds hc hn =>
    rw [gap_stop hc hn]
    have hn' := comment?_none_append (isDelimiter_of_blank hx) hn []
    rw [List.cons_append] at hn' ⊢
    rw [gap_stop hc hn']
    exact ⟨.inl rfl, by simp⟩

lemma gap_snoc_of_cons {x : Char} (hx : Text.isBlank x = true) {cs g ds : List Char} {c : Char}
    (h : gap cs = (g, c :: ds)) : gap (cs ++ [x]) = (g, c :: (ds ++ [x])) := by
  have hg := (gap_snoc hx cs).1
  rw [h] at hg
  rcases hg with hg | ⟨hg, -⟩
  · exact hg
  · cases hg

/-- White space behind the last lexeme stays outside it, unless it is a literal or a quoted name
that is still open. -/
lemma scan_snoc {x : Char} (hx : Text.isBlank x = true) {c : Char} {cs a b : List Char} {k : Kind}
    (h : scan c cs = (k, a, b)) :
    scan c (cs ++ [x]) = (k, a, b ++ [x]) ∨
      (b = [] ∧ (k = .string ∨ k = .quotedName) ∧
        scan c (cs ++ [x]) = (k, a ++ [x], [])) := by
  obtain ⟨r, hr, hgo⟩ := scan_goesOn (isDelimiter_of_blank hx) h []
  rcases goesOn_iff.mp hgo with ⟨-, rfl⟩ | ⟨ho, rfl, u, v, huv, rfl⟩
  · exact .inl hr
  · obtain ⟨rfl, rfl⟩ := List.append_eq_nil_iff.mp huv
    exact .inr ⟨rfl, kind_of_isOpen ho, hr⟩

/-- Lexemes that mean the same: they are of one kind and name the same thing, and words are spelled
the same. -/
structure Alike (x y : Lexeme) : Prop where
  kind : x.kind = y.kind
  chars : x.kind = .word → x.chars = y.chars
  identifier : x.identifier? = y.identifier?

lemma Alike.refl (x : Lexeme) : Alike x x := ⟨rfl, fun _ => rfl, rfl⟩

lemma Alike.trans {x y z : Lexeme} (h : Alike x y) (h' : Alike y z) : Alike x z :=
  ⟨h.kind.trans h'.kind, fun hx => (h.chars hx).trans (h'.chars (h.kind ▸ hx)),
    h.identifier.trans h'.identifier⟩

lemma Alike.isKeyword {x y : Lexeme} (h : Alike x y) (keyword : String) :
    x.isKeyword keyword = y.isKeyword keyword := by
  by_cases hx : x.kind = .word
  · simp [Lexeme.isKeyword, text, ← h.kind, h.chars hx]
  · have hy : ¬ y.kind = .word := h.kind ▸ hx
    simp [Lexeme.isKeyword, hx, hy]

/-- A literal or a quoted name goes on meaning the same when white space is added to it. -/
lemma alike_snoc {x : Char} (hx : Text.isBlank x = true) {k : Kind} (cs : List Char)
    (hk : k = .string ∨ k = .quotedName) : Alike ⟨k, cs⟩ ⟨k, cs ++ [x]⟩ := by
  refine ⟨rfl, fun h => ?_, ?_⟩
  · rcases hk with rfl | rfl <;> cases h
  · simp [identifier?, isName, text, Identifier.normalize, Identifier.normalizeChars,
      Text.trimChars_snoc_blank hx]

lemma forall₂_alike_refl (xs : List Lexeme) : List.Forall₂ Alike xs xs :=
  List.forall₂_same.mpr fun x _ => Alike.refl x

lemma forall₂_alike_trans {xs ys zs : List Lexeme} (h : List.Forall₂ Alike xs ys)
    (h' : List.Forall₂ Alike ys zs) : List.Forall₂ Alike xs zs := by
  induction h generalizing zs with
  | nil => exact h'
  | cons hxy _ ih =>
    obtain ⟨z, zs, hyz, hs, rfl⟩ := List.forall₂_cons_left_iff.mp h'
    exact .cons (hxy.trans hyz) (ih hs)

end Lexeme

/-! ### The lexemes of trimmed text -/

namespace Layout

open Lexeme

lemma lexemes_of_scan {cs g ds body rest : List Char} {c : Char} {k : Kind}
    (hg : gap cs = (g, c :: ds)) (hs : scan c ds = (k, body, rest)) :
    (ofChars cs).lexemes = ⟨k, c :: body⟩ :: (ofChars rest).lexemes := by
  rw [ofChars_of_scan hg hs]
  rfl

lemma lexemes_cons_blank {x : Char} (hx : Text.isBlank x = true) (cs : List Char) :
    (ofChars (x :: cs)).lexemes = (ofChars cs).lexemes := by
  rcases hg : gap cs with ⟨g, _ | ⟨c, ds⟩⟩
  · rw [ofChars_of_gap hg, ofChars_of_gap (g := x :: g) (by rw [gap_blank hx, hg])]
    rfl
  · rw [lexemes_of_scan hg rfl, lexemes_of_scan (g := x :: g) (by rw [gap_blank hx, hg]) rfl]

lemma lexemes_trimStart (cs : List Char) :
    (ofChars (Text.trimStart cs)).lexemes = (ofChars cs).lexemes := by
  induction cs with
  | nil => rfl
  | cons c cs ih =>
    by_cases hc : Text.isBlank c = true
    · rw [Text.trimStart_cons_blank hc, lexemes_cons_blank hc, ih]
    · rw [Text.trimStart, List.dropWhile_cons_of_neg hc]

lemma lexemes_snoc_blank {x : Char} (hx : Text.isBlank x = true) (cs : List Char) :
    List.Forall₂ Alike (ofChars cs).lexemes (ofChars (cs ++ [x])).lexemes := by
  induction cs using ofChars.induct with
  | case1 cs g hg =>
    have h0 := (gap_snoc hx cs).2 (by rw [hg])
    rw [ofChars_of_gap hg, ofChars_of_gap (Prod.ext rfl h0)]
    exact .nil
  | case2 cs g c ds hg r ih =>
    obtain ⟨k, body, rest, hs⟩ : ∃ k body rest, scan c ds = (k, body, rest) := ⟨_, _, _, rfl⟩
    simp only [r, hs] at ih
    have hg' := gap_snoc_of_cons hx hg
    rw [lexemes_of_scan hg hs]
    rcases scan_snoc hx hs with h | ⟨rfl, hk, h⟩
    · rw [lexemes_of_scan hg' h]
      exact .cons (Alike.refl _) ih
    · rw [lexemes_of_scan hg' h]
      exact .cons (alike_snoc hx (c :: body) hk) (forall₂_alike_refl _)

lemma lexemes_append_blank {w : List Char} (hw : ∀ x ∈ w, Text.isBlank x = true)
    (cs : List Char) : List.Forall₂ Alike (ofChars cs).lexemes (ofChars (cs ++ w)).lexemes := by
  induction w generalizing cs with
  | nil => simpa using forall₂_alike_refl _
  | cons x w ih =>
    have h := ih (fun y hy => hw y (by simp [hy])) (cs ++ [x])
    rw [List.append_assoc] at h
    exact forall₂_alike_trans (lexemes_snoc_blank (hw x (by simp)) cs) h

/-- The lexemes of a text and of the text without the white space at its ends mean the same. -/
theorem lexemes_trimChars (cs : List Char) :
    List.Forall₂ Alike (ofChars (Text.trimChars cs)).lexemes (ofChars cs).lexemes := by
  obtain ⟨w, hw, hb⟩ := Text.trimEnd_append (Text.trimStart cs)
  have h := lexemes_append_blank hb (Text.trimEnd (Text.trimStart cs))
  rw [hw, lexemes_trimStart] at h
  exact h

end Layout

/-! ### What lexemes that mean the same refer to -/

open Lexeme

namespace Reference

lemma ofLexemes_pair {a d b : Lexeme} {qualifier column : String} (hd : d.kind = .dot)
    (ha : a.identifier? = some qualifier) (hb : b.identifier? = some column)
    (xs : List Lexeme) :
    ofLexemes (a :: d :: b :: xs) = ⟨qualifier, column⟩ :: ofLexemes xs := by
  rw [ofLexemes, hd, ha, hb]

lemma ofLexemes_skip {a : Lexeme} {xs : List Lexeme}
    (h : ∀ d b ys q c, xs = d :: b :: ys → d.kind = .dot → a.identifier? = some q →
      b.identifier? = some c → False) : ofLexemes (a :: xs) = ofLexemes xs := by
  rcases xs with _ | ⟨d, _ | ⟨b, ys⟩⟩
  · rfl
  · rfl
  · rw [ofLexemes]
    split
    · next hd ha hb => exact (h d b ys _ _ rfl hd ha hb).elim
    · rfl

lemma ofLexemes_congr {xs ys : List Lexeme} (h : List.Forall₂ Alike xs ys) :
    ofLexemes xs = ofLexemes ys := by
  induction xs using ofLexemes.induct generalizing ys with
  | case1 a d b xs q c hb ha hd ih =>
    rcases h with _ | ⟨h1, _ | ⟨h2, _ | ⟨h3, h⟩⟩⟩
    rw [ofLexemes_pair hd ha hb, ofLexemes_pair (h2.kind ▸ hd) (h1.identifier ▸ ha)
      (h3.identifier ▸ hb), ih h]
  | case2 a d b xs hn ih =>
    rcases h with _ | ⟨h1, h⟩
    have hx : ofLexemes (a :: d :: b :: xs) = ofLexemes (d :: b :: xs) := by
      refine ofLexemes_skip fun d' b' ys' q c e hd ha hb => ?_
      cases e
      exact hn q c hd ha hb
    rw [hx, ih h, ofLexemes_skip]
    rintro d' b' ys q c rfl hd ha hb
    rcases h with _ | ⟨h2, _ | ⟨h3, h⟩⟩
    exact hn q c (h2.kind.trans hd) (h1.identifier.trans ha) (h3.identifier.trans hb)
  | case3 xs hn =>
    rcases h with _ | ⟨h1, _ | ⟨h2, _ | ⟨h3, h⟩⟩⟩
    · rfl
    · rfl
    · rfl
    · exact (hn _ _ _ _ rfl).elim

end Reference

namespace Source

lemma isClauseWord_congr (words : ClauseWords) {x y : Lexeme} (h : Alike x y) :
    isClauseWord words x = isClauseWord words y := by
  by_cases hx : x.kind = .word
  · simp [isClauseWord, text, ← h.kind, h.chars hx]
  · have hy : ¬ y.kind = .word := h.kind ▸ hx
    simp [isClauseWord, hx, hy]

lemma readAs_congr {xs ys : List Lexeme} (h : List.Forall₂ Alike xs ys) :
    (readAs xs).1 = (readAs ys).1 ∧ List.Forall₂ Alike (readAs xs).2 (readAs ys).2 := by
  induction h with
  | nil => exact ⟨rfl, .nil⟩
  | cons hxy h _ =>
    rw [readAs, readAs, hxy.isKeyword]
    split
    · exact ⟨rfl, h⟩
    · exact ⟨rfl, .cons hxy h⟩

lemma readAlias_congr (words : ClauseWords) {xs ys : List Lexeme}
    (h : List.Forall₂ Alike xs ys) :
    (readAlias words xs).1 = (readAlias words ys).1 ∧
      List.Forall₂ Alike (readAlias words xs).2 (readAlias words ys).2 := by
  obtain ⟨h1, h2⟩ := readAs_congr h
  simp only [readAlias, h1]
  generalize (readAs xs).2 = us at h2
  generalize (readAs ys).2 = vs at h2
  rcases h2 with _ | ⟨huv, h2⟩
  · exact ⟨rfl, .nil⟩
  · simp only [isClauseWord_congr words huv, huv.identifier]
    split
    · exact ⟨rfl, h2⟩
    · exact ⟨rfl, .cons huv h2⟩

lemma read?_congr (words : ClauseWords) {xs ys : List Lexeme} (h : List.Forall₂ Alike xs ys) :
    (read? words xs = none ∧ read? words ys = none) ∨
      ∃ s us vs, read? words xs = some (s, us) ∧ read? words ys = some (s, vs) ∧
        List.Forall₂ Alike us vs := by
  rcases h with _ | ⟨hxy, h⟩
  · exact .inl ⟨rfl, rfl⟩
  · obtain ⟨h1, h2⟩ := readAlias_congr words h
    simp only [read?, ← hxy.identifier, h1]
    rcases Lexeme.identifier? _ with _ | table
    · exact .inl ⟨rfl, rfl⟩
    · exact .inr ⟨_, _, _, rfl, rfl, h2⟩

lemma map_fst_read?_congr (words : ClauseWords) {xs ys : List Lexeme}
    (h : List.Forall₂ Alike xs ys) :
    (read? words xs).map Prod.fst = (read? words ys).map Prod.fst := by
  rcases read?_congr words h with ⟨hx, hy⟩ | ⟨s, us, vs, hx, hy, -⟩
  · rw [hx, hy]
  · rw [hx, hy]; rfl

lemma readList_of_none {words : ClauseWords} {xs : List Lexeme} (h : read? words xs = none) :
    readList words xs = [] := by
  rw [readList]
  split
  · rfl
  · next e => rw [h] at e; cases e
  · next e => rw [h] at e; cases e

lemma readList_of_some {words : ClauseWords} {xs rest : List Lexeme} {s : Source}
    (h : read? words xs = some (s, rest)) :
    readList words xs = s :: (match rest with
      | [] => []
      | y :: ys => if y.kind = .comma then readList words ys else []) := by
  rw [readList]
  split
  · next e => rw [h] at e; cases e
  · next e => rw [h] at e; cases e; rfl
  · next y ys e =>
    rw [h] at e
    cases e
    split <;> simp_all

lemma readList_congr (words : ClauseWords) {xs ys : List Lexeme}
    (h : List.Forall₂ Alike xs ys) : readList words xs = readList words ys := by
  induction hn : xs.length using Nat.strongRecOn generalizing xs ys with
  | _ n ih =>
    subst hn
    rcases read?_congr words h with ⟨hx, hy⟩ | ⟨s, us, vs, hx, hy, huv⟩
    · rw [readList_of_none hx, readList_of_none hy]
    · have hl := read?_length hx
      rw [readList_of_some hx, readList_of_some hy]
      rcases huv with _ | ⟨hc, huv⟩
      · rfl
      · simp only [List.length_cons] at hl
        simp only [hc.kind, ih _ (by omega) huv rfl]

lemma ofLexemes_congr (words : ClauseWords) {xs ys : List Lexeme}
    (h : List.Forall₂ Alike xs ys) : ofLexemes words xs = ofLexemes words ys := by
  induction h with
  | nil => rfl
  | cons hxy h ih =>
    rw [ofLexemes, ofLexemes, hxy.isKeyword, hxy.isKeyword, readList_congr words h,
      map_fst_read?_congr words h, ih]

end Source

/-- A statement refers to the same tables and columns when its lexemes mean the same. -/
theorem Extraction.ofLexemes_congr (words : ClauseWords) {xs ys : List Lexeme}
    (h : List.Forall₂ Alike xs ys) :
    Extraction.ofLexemes words xs = Extraction.ofLexemes words ys := by
  rw [Extraction.ofLexemes, Extraction.ofLexemes, Source.ofLexemes_congr words h,
    Reference.ofLexemes_congr h]

end QueryGate
