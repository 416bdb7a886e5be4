import QueryGate.Proofs.Lexing

/-!
How a text goes on behind its end. A reader of lexemes that took all of a text, because a comment,
a literal or a quoted name is still open there, takes what is written behind it too. Any other
reader stops where it stopped before.
-/

namespace QueryGate

/-! ### Readers -/

/-- What a reader takes and leaves of a text, and of the text with `x :: s` behind it. -/
inductive GoesOn (x : Char) (s : List Char) :
    Bool → List Char × List Char → List Char × List Char → Prop
  | stops (a b : List Char) : GoesOn x s false (a, b) (a, b ++ x :: s)
  | takes (a c d : List Char) (h : c ++ d = s) : GoesOn x s true (a, []) (a ++ x :: c, d)

lemma GoesOn.prepend {x : Char} {s : List Char} {isOpen : Bool} {r r' : List Char × List Char}
    (h : GoesOn x s isOpen r r') (w : List Char) :
    GoesOn x s isOpen (w ++ r.1, r.2) (w ++ r'.1, r'.2) := by
  cases h with
  | stops a b => exact .stops _ _
  | takes a c d h => simpa using GoesOn.takes (x := x) (w ++ a) c d h

lemma goesOn_iff {x : Char} {s a b : List Char} {isOpen : Bool} {r' : List Char × List Char} :
    GoesOn x s isOpen (a, b) r' ↔ (isOpen = false ∧ r' = (a, b ++ x :: s)) ∨
      (isOpen = true ∧ b = [] ∧ ∃ c d, c ++ d = s ∧ r' = (a ++ x :: c, d)) := by
  constructor
  · rintro (_ | ⟨_, c, d, h⟩)
    · exact .inl ⟨rfl, rfl⟩
    · exact .inr ⟨rfl, rfl, c, d, h, rfl⟩
  · rintro (⟨rfl, rfl⟩ | ⟨rfl, rfl, c, d, h, rfl⟩)
    · exact .stops a b
    · exact .takes a c d h

/-- A reader at the end of a text takes a first character and goes on with the rest. -/
lemma GoesOn.of_append {x : Char} {s a b : List Char} (h : a ++ b = s) :
    GoesOn x s true ([], []) (x :: a, b) :=
  .takes [] a b h

lemma run_append_cons {p : Char → Bool} {x : Char} (hx : ¬ p x = true) (cs s : List Char) :
    (cs ++ x :: s).takeWhile p = cs.takeWhile p ∧
      (cs ++ x :: s).dropWhile p = cs.dropWhile p ++ x :: s := by
  induction cs with
  | nil => simp [hx]
  | cons c cs ih =>
    by_cases hc : p c = true
    · simpa [hc] using ih
    · simp [hc]

/-- A run that does not leave a character takes it when the text ends before. -/
lemma run_goesOn {p : Char → Bool} {x : Char} (hx : p x = true) (cs s : List Char) :
    GoesOn x s (cs.dropWhile p).isEmpty (cs.takeWhile p, cs.dropWhile p)
      ((cs ++ x :: s).takeWhile p, (cs ++ x :: s).dropWhile p) := by
  induction cs with
  | nil => simpa [hx] using GoesOn.of_append List.takeWhile_append_dropWhile
  | cons c cs ih =>
    by_cases hc : p c = true
    · simpa [hc] using ih.prepend [c]
    · simpa [hc] using GoesOn.stops (x := x) (s := s) [] (c :: cs)

namespace Text

/-- A mark that a character does not belong to does not reach beyond that character. -/
lemma isPrefix_of_isPrefix_append {mark cs s : List Char} {x : Char} (hx : x ∉ mark)
    (h : mark <+: cs ++ x :: s) : mark <+: cs := by
  rcases Nat.le_total mark.length cs.length with hl | hl
  · exact List.prefix_of_prefix_length_le h (List.prefix_append _ _) hl
  · obtain ⟨t, rfl⟩ := List.prefix_of_prefix_length_le (List.prefix_append cs (x :: s)) h hl
    obtain ⟨u, hu⟩ := h
    rw [List.append_assoc, List.append_cancel_left_eq] at hu
    rcases t with _ | ⟨c, t⟩
    · simp
    · obtain ⟨rfl, -⟩ := List.cons.inj hu
      exact absurd (by simp) hx

lemma through_goesOn {mark : List Char} {x : Char} (hm : mark ≠ []) (hx : x ∉ mark)
    (cs s : List Char) : GoesOn x s (!mark.isSuffixOf (through mark cs).1) (through mark cs)
      (through mark (cs ++ x :: s)) := by
  induction cs with
  | nil =>
    have hn : ¬ mark.isPrefixOf (x :: s) = true := fun h => by
      have hp : mark <+: [] ++ x :: s := List.isPrefixOf_iff_prefix.mp h
      exact hm (List.prefix_nil.mp (isPrefix_of_isPrefix_append hx hp))
    have ho : mark.isSuffixOf ([] : List Char) = false := by
      simpa [← Bool.not_eq_true, List.isSuffixOf_iff_suffix] using hm
    simp only [through, List.nil_append, hn, ho]
    exact .of_append (through_append mark s)
  | cons c cs ih =>
    by_cases h : mark.isPrefixOf (c :: cs) = true
    · obtain ⟨t, ht⟩ := List.isPrefixOf_iff_prefix.mp h
      have ho : mark.isSuffixOf mark = true := List.isSuffixOf_iff_suffix.mpr (List.suffix_refl _)
      rw [← ht, List.append_assoc, through_self_append, through_self_append, ho]
      exact .stops mark t
    · have h' : ¬ mark.isPrefixOf (c :: (cs ++ x :: s)) = true := fun hp =>
        h (List.isPrefixOf_iff_prefix.mpr (isPrefix_of_isPrefix_append hx
          (List.isPrefixOf_iff_prefix.mp hp)))
      -- what was taken so far does not end in the mark just because of `c`
      have ho : mark.isSuffixOf (c :: (through mark cs).1) =
          mark.isSuffixOf (through mark cs).1 := by
        rw [Bool.eq_iff_iff, List.isSuffixOf_iff_suffix, List.isSuffixOf_iff_suffix,
          List.suffix_cons_iff]
        refine or_iff_right fun e => h (List.isPrefixOf_iff_prefix.mpr ?_)
        rw [e, ← through_append mark cs, ← List.cons_append]
        exact ⟨_, by rw [through_append]⟩
      rw [List.cons_append, through, through, if_neg h, if_neg h', ho]
      exact ih.prepend [c]

end Text

namespace Lexeme

/-- A character that neither goes on with a word or a number nor opens or closes anything. -/
structure IsDelimiter (x : Char) : Prop where
  word : ¬ isWordPart x = true
  mark : x ∉ ['.', '"', '\'', '-', '*', '/']

lemma IsDelimiter.ne {x y : Char} (hx : IsDelimiter x)
    (hy : y ∈ ['.', '"', '\'', '-', '*', '/']) : x ≠ y := by
  rintro rfl
  exact hx.mark hy

lemma IsDelimiter.not_tagChar {x : Char} (hx : IsDelimiter x) : ¬ isTagChar x = true := by
  intro ht
  refine hx.word ?_
  rw [isWordPart, Bool.or_eq_true]
  exact .inl ht

lemma IsDelimiter.ne_dollar {x : Char} (hx : IsDelimiter x) : x ≠ '$' := by
  rintro rfl
  exact hx.word (by decide)

lemma isDelimiter_semicolon : IsDelimiter ';' := ⟨by decide, by decide⟩

lemma quoted_goesOn {q x : Char} (hx : x ≠ q) (cs s : List Char) :
    GoesOn x s ((quoted q cs).1.count q % 2 == 0) (quoted q cs) (quoted q (cs ++ x :: s)) := by
  induction cs using quoted.induct q with
  | case1 =>
    rcases s with _ | ⟨d, s⟩
    · simpa [quoted] using GoesOn.of_append (x := x) (a := []) rfl
    · simpa [quoted, hx] using GoesOn.of_append (x := x) (quoted_append q (d :: s))
  | case2 c =>
    by_cases hc : c = q
    · simpa [quoted, hc, hx] using GoesOn.stops (x := x) (s := s) [q] []
    · rcases s with _ | ⟨d, s⟩
      · simpa [quoted, hc, hx] using
          (GoesOn.of_append (x := x) (a := []) rfl).prepend [c]
      · simpa [quoted, hc, hx] using
          (GoesOn.of_append (x := x) (quoted_append q (d :: s))).prepend [c]
  | case3 cs ih => simpa [quoted, Nat.add_assoc] using ih.prepend [q, q]
  | case4 d cs hd => simpa [quoted, hd] using GoesOn.stops (x := x) (s := s) [q] (d :: cs)
  | case5 c d cs hc ih => simpa [quoted, hc] using ih.prepend [c]

lemma number_append_cons {x : Char} (hx : IsDelimiter x) (cs s : List Char) :
    number (cs ++ x :: s) = ((number cs).1, (number cs).2 ++ x :: s) := by
  obtain ⟨h1, h2⟩ := run_append_cons hx.word cs s
  by_cases hf : ∃ d ds, cs.dropWhile isWordPart = '.' :: d :: ds ∧ d.isDigit = true
  · obtain ⟨d, ds, e, hd⟩ := hf
    obtain ⟨h3, h4⟩ := run_append_cons hx.word (d :: ds) s
    rw [List.cons_append] at h3 h4
    have e' : (cs ++ x :: s).dropWhile isWordPart = '.' :: d :: (ds ++ x :: s) := by
      rw [h2, e]; rfl
    rw [number_fraction e hd, number_fraction e' hd, h1, h3, h4]
  · rw [number_whole fun d ds e hd => hf ⟨d, ds, e, hd⟩, number_whole, h1, h2]
    intro d ds e hd
    rw [h2] at e
    rcases hr : cs.dropWhile isWordPart with _ | ⟨c, _ | ⟨d', r⟩⟩ <;> rw [hr] at e
    · exact hx.ne (by decide) (List.cons.inj e).1
    · simp only [List.cons_append, List.nil_append, List.cons.injEq] at e
      exact hx.word (e.2.1 ▸ isWordPart_of_isDigit hd)
    · simp only [List.cons_append, List.cons.injEq] at e
      exact hf ⟨d, r, by rw [hr, e.1, e.2.1], hd⟩

lemma dollarTag?_append_cons {x : Char} (hx : IsDelimiter x) (cs s : List Char) :
    dollarTag? (cs ++ x :: s) = dollarTag? cs := by
  obtain ⟨h1, h2⟩ := run_append_cons hx.not_tagChar cs s
  simp only [dollarTag?, h1, h2]
  rcases cs.dropWhile isTagChar with _ | ⟨c, r⟩
  · simp [hx.ne_dollar]
  · rfl

/-! ### Comments -/

/-- Whether a comment lacks its end, when it is followed by `rest`. -/
def commentIsOpen : List Char → List Char → Bool
  | '/' :: '*' :: ds, _ => !(['*', '/'].isSuffixOf ds)
  | _, rest => rest.isEmpty

/-- Whether a comment among white space and comments lacks its end. -/
def gapIsOpen (cs : List Char) : Bool :=
  match cs with
  | [] => false
  | c :: ds =>
    if Text.isBlank c then gapIsOpen ds
    else
      match _h : comment? (c :: ds) with
      | some (a, b) => commentIsOpen a b || gapIsOpen b
      | none => false
termination_by cs.length
decreasing_by
  · simp
  · exact comment?_length _h

lemma gapIsOpen_nil : gapIsOpen [] = false := by
  rw [gapIsOpen.eq_def]

lemma gapIsOpen_blank {c : Char} (hc : Text.isBlank c = true) (ds : List Char) :
    gapIsOpen (c :: ds) = gapIsOpen ds := by
  rw [gapIsOpen.eq_def]
  exact if_pos hc

lemma gapIsOpen_comment {cs a b : List Char} (h : comment? cs = some (a, b)) :
    gapIsOpen cs = (commentIsOpen a b || gapIsOpen b) := by
  rcases cs with _ | ⟨c, ds⟩
  · cases h
  · rw [gapIsOpen.eq_def]
    simp only [if_neg (not_blank_of_comment? h)]
    split
    · next e => rw [h] at e; cases e; rfl
    · next e => rw [h] at e; cases e

lemma gapIsOpen_stop {c : Char} {ds : List Char} (hc : ¬ Text.isBlank c = true)
    (h : comment? (c :: ds) = none) : gapIsOpen (c :: ds) = false := by
  rw [gapIsOpen.eq_def]
  simp only [if_neg hc]
  split
  · next e => rw [h] at e; cases e
  · rfl

lemma gapIsOpen_of_blank {cs : List Char} (h : ∀ c ∈ cs, Text.isBlank c = true) :
    gapIsOpen cs = false := by
  induction cs with
  | nil => exact gapIsOpen_nil
  | cons c cs ih =>
    rw [gapIsOpen_blank (h c List.mem_cons_self)]
    exact ih fun d hd => h d (List.mem_cons_of_mem c hd)

lemma comment?_goesOn {cs a b : List Char} (h : comment? cs = some (a, b)) (s : List Char) :
    ∃ r, comment? (cs ++ ';' :: s) = some r ∧ GoesOn ';' s (commentIsOpen a b) (a, b) r := by
  unfold comment? at h
  split at h
  · next ds =>
    cases h
    exact ⟨_, rfl, (run_goesOn (by decide) ds s).prepend ['-', '-']⟩
  · next ds =>
    cases h
    exact ⟨_, rfl, (Text.through_goesOn (by simp) (by decide) ds s).prepend ['/', '*']⟩
  · cases h

lemma comment?_none_append {x : Char} (hx : IsDelimiter x) {cs : List Char}
    (h : comment? cs = none) (s : List Char) : comment? (cs ++ x :: s) = none := by
  have h1 : x ≠ '-' := hx.ne (by decide)
  have h2 : x ≠ '*' := hx.ne (by decide)
  have h3 : x ≠ '/' := hx.ne (by decide)
  rcases cs with _ | ⟨c, _ | ⟨d, ds⟩⟩
  · unfold comment?
    split <;> simp_all
  · unfold comment?
    split <;> simp_all
  · unfold comment? at h ⊢
    split at h
    · cases h
    · cases h
    · next h3 h4 =>
      split
      · next ds' e =>
        simp only [List.cons_append, List.cons.injEq] at e
        exact absurd (by rw [e.1, e.2.1]) (h3 ds)
      · next ds' e =>
        simp only [List.cons_append, List.cons.injEq] at e
        exact absurd (by rw [e.1, e.2.1]) (h4 ds)
      · rfl

lemma eq_of_gap {cs g : List Char} (h : gap cs = (g, [])) : cs = g := by
  simpa [h] using (gap_append cs).symm

/-- A gap ends where no gap begins. -/
lemma gap_rest {cs g ds : List Char} {c : Char} (h : gap cs = (g, c :: ds)) :
    gap (c :: ds) = ([], c :: ds) ∧ ¬ Text.isBlank c = true := by
  induction cs using gap.induct generalizing g with
  | case1 => rw [gap_nil] at h; cases h
  | case2 d es hd ih =>
    rw [gap_blank hd, Prod.mk.injEq] at h
    exact ih (Prod.ext rfl h.2)
  | case3 d es hd a b hab ih =>
    rw [gap_comment hab, Prod.mk.injEq] at h
    exact ih (Prod.ext rfl h.2)
  | case4 d es hd hn =>
    rw [gap_stop hd hn] at h
    cases h
    exact ⟨gap_stop hd hn, hd⟩

/-- No comment begins where a gap has ended. -/
lemma comment?_of_gap {c : Char} {ds : List Char} (h : gap (c :: ds) = ([], c :: ds)) :
    comment? (c :: ds) = none := by
  rcases hc : comment? (c :: ds) with _ | ⟨a, b⟩
  · rfl
  · have hlength := comment?_length hc
    have hrest : (gap b).2 = c :: ds := by
      have := gap_comment hc
      rw [h] at this
      exact (Prod.mk.inj this).2.symm
    have happend := congrArg List.length (gap_append b)
    rw [hrest, List.length_append] at happend
    omega

lemma gap_goesOn (cs s : List Char) :
    GoesOn ';' s (gapIsOpen cs) (gap cs) (gap (cs ++ ';' :: s)) := by
  induction cs using gap.induct with
  | case1 =>
    rw [gapIsOpen_nil, gap_nil, List.nil_append, gap_stop (by decide) rfl]
    exact .stops [] []
  | case2 c ds hc ih =>
    rw [gapIsOpen_blank hc, gap_blank hc, List.cons_append, gap_blank hc]
    exact ih.prepend [c]
  | case3 c ds hc a b hab ih =>
    obtain ⟨r, hr, h⟩ := comment?_goesOn hab s
    rw [gapIsOpen_comment hab, gap_comment hab, gap_comment hr]
    rcases goesOn_iff.mp h with ⟨ho, rfl⟩ | ⟨ho, rfl, t, u, rfl, rfl⟩
    · rw [ho]
      exact ih.prepend a
    · -- the comment took all, and what follows its end is a gap again
      rw [ho, gap_nil]
      simpa using GoesOn.takes (x := ';') a (t ++ (gap u).1) (gap u).2
        (by rw [List.append_assoc, gap_append])
  | case4 c ds hc hn =>
    have hn' := comment?_none_append isDelimiter_semicolon hn s
    rw [List.cons_append] at hn' ⊢
    rw [gapIsOpen_stop hc hn, gap_stop hc hn, gap_stop hc hn']
    exact .stops [] (c :: ds)

lemma not_isSuffixOf {mark cs : List Char} {x y : Char} (hm : mark.getLast? = some y)
    (hcs : cs.getLast? = some x) (h : x ≠ y) : mark.isSuffixOf cs = false := by
  rw [← Bool.not_eq_true, List.isSuffixOf_iff_suffix]
  rintro ⟨t, rfl⟩
  rw [List.getLast?_append, hm, Option.some_or] at hcs
  exact h (Option.some.inj hcs).symm

/-- A semicolon ends no comment. -/
lemma commentIsOpen_snoc (cs : List Char) : commentIsOpen (cs ++ [';']) [] = true := by
  unfold commentIsOpen
  split
  · next _ ds e =>
    have hl := congrArg List.getLast? e
    rw [List.getLast?_concat, List.getLast?_cons_cons] at hl
    rcases ds with _ | ⟨d, ds⟩
    · exact absurd hl (by decide)
    · rw [List.getLast?_cons_cons] at hl
      rw [not_isSuffixOf (y := '/') rfl hl.symm (by decide)]
      rfl
  · rfl

lemma gapIsOpen_snoc {cs : List Char} (h : gapIsOpen cs = true) :
    gapIsOpen (cs ++ [';']) = true := by
  induction cs using gap.induct with
  | case1 => rw [gapIsOpen_nil] at h; cases h
  | case2 c ds hc ih =>
    rw [gapIsOpen_blank hc] at h
    rw [List.cons_append, gapIsOpen_blank hc, ih h]
  | case3 c ds hc a b hab ih =>
    obtain ⟨r, hr, hg⟩ := comment?_goesOn hab []
    rcases goesOn_iff.mp hg with ⟨ho, rfl⟩ | ⟨-, -, t, u, htu, rfl⟩
    · rw [gapIsOpen_comment hab, ho, Bool.false_or] at h
      rw [gapIsOpen_comment hr, ih h, Bool.or_true]
    · obtain ⟨rfl, rfl⟩ := List.append_eq_nil_iff.mp htu
      rw [gapIsOpen_comment hr, commentIsOpen_snoc, Bool.true_or]
  | case4 c ds hc hn => rw [gapIsOpen_stop hc hn] at h; cases h

/-! ### Lexemes -/

/-- Whether a literal or a quoted name lacks its closing quote. -/
def isOpen (x : Lexeme) : Bool :=
  match x.kind, x.chars with
  | .quotedName, _ :: cs => cs.count '"' % 2 == 0
  | .string, '$' :: cs =>
    (dollarTag? cs).any fun tag =>
      !('$' :: tag ++ ['$']).isSuffixOf (cs.drop (tag.length + 1))
  | .string, _ :: cs => cs.count '\'' % 2 == 0
  | _, _ => false

lemma kind_of_isOpen {x : Lexeme} (h : x.isOpen = true) :
    x.kind = .string ∨ x.kind = .quotedName := by
  unfold isOpen at h
  split at h
  · next hk _ => exact .inr hk
  · next hk _ => exact .inl hk
  · next hk _ => exact .inl hk
  · cases h

lemma isOpen_of_kind {x : Lexeme} (h : ¬ (x.kind = .string ∨ x.kind = .quotedName)) :
    x.isOpen = false :=
  Bool.eq_false_iff.mpr fun ho => h (kind_of_isOpen ho)

lemma isOpen_dollar {tag rest : List Char} (h : dollarTag? (tag ++ '$' :: rest) = some tag) :
    isOpen ⟨.string, '$' :: (tag ++ '$' :: rest)⟩ = !('$' :: tag ++ ['$']).isSuffixOf rest := by
  have hd : (tag ++ '$' :: rest).drop (tag.length + 1) = rest := by
    rw [List.drop_length_add_append]; rfl
  simp only [isOpen, h, Option.any_some, hd]

lemma scan_goesOn {x : Char} (hx : IsDelimiter x) {c : Char} {cs a b : List Char} {k : Kind}
    (h : scan c cs = (k, a, b)) (s : List Char) : ∃ r, scan c (cs ++ x :: s) = (k, r) ∧
      GoesOn x s (isOpen ⟨k, c :: a⟩) (a, b) r := by
  rcases scan_cases c cs with hc | rfl | rfl | ⟨rfl, tag, rest, rfl, ht⟩ | ⟨rfl, ht⟩ | ⟨hc, hd⟩ |
    hc
  · rw [scan_word hc] at h ⊢
    cases h
    obtain ⟨h1, h2⟩ := run_append_cons hx.word cs s
    rw [h1, h2]
    exact ⟨_, rfl, .stops _ _⟩
  · rw [scan_quotedName, Prod.mk.injEq] at h
    obtain ⟨rfl, h⟩ := h
    have hq := quoted_goesOn (hx.ne (y := '"') (by decide)) cs s
    rw [h] at hq
    exact ⟨_, rfl, hq⟩
  · rw [scan_string, Prod.mk.injEq] at h
    obtain ⟨rfl, h⟩ := h
    have hq := quoted_goesOn (hx.ne (y := '\'') (by decide)) cs s
    rw [h] at hq
    exact ⟨_, rfl, hq⟩
  · rw [scan_dollar ht] at h
    cases h
    obtain ⟨-, hall⟩ := dollarTag?_eq_some_iff.mp ht
    have ht' : ∀ r, dollarTag? (tag ++ '$' :: r) = some tag := fun r =>
      dollarTag?_eq_some_iff.mpr ⟨⟨r, rfl⟩, hall⟩
    have hm : x ∉ '$' :: tag ++ ['$'] := by
      have : x ∉ tag := fun h => hx.not_tagChar (hall.1 x h)
      simpa [hx.ne_dollar] using this
    have ho := Text.through_goesOn (by simp) hm rest s
    refine ⟨_, by rw [List.append_assoc, List.cons_append, scan_dollar (ht' _)], ?_⟩
    rw [isOpen_dollar (ht' _)]
    simpa using ho.prepend (tag ++ ['$'])
  · rw [scan_lone_dollar ht] at h
    cases h
    exact ⟨_, scan_lone_dollar (by rw [dollarTag?_append_cons hx, ht]), .stops _ _⟩
  · rw [scan_number hc hd, Prod.mk.injEq] at h
    obtain ⟨rfl, h⟩ := h
    rw [scan_number hc hd, number_append_cons hx, h]
    exact ⟨_, rfl, .stops _ _⟩
  · rw [scan_mark hc] at h
    cases h
    have ho : isOpen ⟨markKind c, [c]⟩ = false := by
      refine isOpen_of_kind ?_
      simp only [markKind]
      split_ifs <;> simp
    rw [ho]
    exact ⟨_, scan_mark hc _, .stops _ _⟩

lemma isOpen_string {c : Char} (hc : c ≠ '$') (cs : List Char) :
    isOpen ⟨.string, c :: cs⟩ = (cs.count '\'' % 2 == 0) := by
  unfold isOpen
  split <;> simp_all

/-- A semicolon closes no quotes. -/
lemma isOpen_snoc {k : Kind} {cs : List Char} (h : isOpen ⟨k, cs⟩ = true) :
    isOpen ⟨k, cs ++ [';']⟩ = true := by
  rcases cs with _ | ⟨c, cs⟩
  · rcases kind_of_isOpen h with rfl | rfl <;> cases h
  rcases kind_of_isOpen h with rfl | rfl
  · by_cases hc : c = '$'
    · subst hc
      obtain ⟨tag, ht, -⟩ := Option.any_eq_true _ _ |>.mp h
      have ht' : dollarTag? (cs ++ [';']) = some tag := by
        rw [dollarTag?_append_cons isDelimiter_semicolon, ht]
      obtain ⟨⟨rest, rfl⟩, -⟩ := dollarTag?_eq_some_iff.mp ht
      rw [List.append_assoc, List.cons_append] at ht'
      rw [List.cons_append, List.append_assoc, List.cons_append, isOpen_dollar ht',
        not_isSuffixOf List.getLast?_concat List.getLast?_concat (by decide)]
      rfl
    · rw [isOpen_string hc] at h
      rw [List.cons_append, isOpen_string hc]
      simpa using h
  · simpa [isOpen] using h

end Lexeme

/-! ### Layouts -/

namespace Layout

open Lexeme

/-- Whether a text ends inside a comment, a literal or a quoted name. -/
def isOpen (l : Layout) : Bool := l.lexemes.any Lexeme.isOpen || gapIsOpen l.tail

lemma isOpen_of_gap {cs g : List Char} (h : gap cs = (g, [])) :
    (ofChars cs).isOpen = gapIsOpen cs := by
  rw [ofChars_of_gap h, eq_of_gap h]
  rfl

lemma isOpen_of_scan {cs g ds body rest : List Char} {c : Char} {k : Kind}
    (hg : gap cs = (g, c :: ds)) (hs : scan c ds = (k, body, rest)) :
    (ofChars cs).isOpen = (Lexeme.isOpen ⟨k, c :: body⟩ || (ofChars rest).isOpen) := by
  rw [ofChars_of_scan hg hs]
  simp [isOpen, lexemes, Bool.or_assoc]

/-- A gap in front of a lexeme does not change when the text goes on. -/
lemma gap_append_of_cons {cs g ds : List Char} {c : Char} (h : gap cs = (g, c :: ds))
    (s : List Char) : gap (cs ++ ';' :: s) = (g, c :: (ds ++ ';' :: s)) := by
  have hg := gap_goesOn cs s
  rw [h] at hg
  rcases goesOn_iff.mp hg with ⟨-, e⟩ | ⟨-, e, -⟩
  · exact e
  · cases e

lemma isMark_semicolon : IsMark ';' := by
  refine ⟨by decide, by decide, by decide, by decide, by decide⟩

/-- **A semicolon behind a text that ends outside comments and quotes is a lexeme of its own, and
the text behind it is read alone.** -/
theorem ofChars_append_of_closed {cs : List Char} (h : (ofChars cs).isOpen = false)
    (s : List Char) : ofChars (cs ++ ';' :: s) =
      ⟨(ofChars cs).placed ++ ⟨(ofChars cs).tail, .semicolon, [';']⟩ :: (ofChars s).placed,
        (ofChars s).tail⟩ := by
  induction cs using ofChars.induct with
  | case1 cs g hg =>
    rw [isOpen_of_gap hg] at h
    have hgo := gap_goesOn cs s
    rw [hg, h] at hgo
    have hg' : gap (cs ++ ';' :: s) = (g, ';' :: s) := by simpa using goesOn_iff.mp hgo
    rw [ofChars_of_gap hg, ofChars_of_scan hg' (scan_mark isMark_semicolon s)]
    rfl
  | case2 cs g c ds hg r ih =>
    obtain ⟨k, body, rest, hs⟩ : ∃ k body rest, scan c ds = (k, body, rest) := ⟨_, _, _, rfl⟩
    simp only [r, hs] at ih
    rw [isOpen_of_scan hg hs, Bool.or_eq_false_iff] at h
    obtain ⟨r', hr, hgo⟩ := scan_goesOn isDelimiter_semicolon hs s
    rw [h.1] at hgo
    obtain rfl : r' = (body, rest ++ ';' :: s) := by simpa using goesOn_iff.mp hgo
    rw [ofChars_of_scan hg hs, ofChars_of_scan (gap_append_of_cons hg s) hr, ih h.2]
    rfl

/-- A semicolon ends no comment and closes no quotes. -/
lemma isOpen_snoc (cs : List Char) :
    (ofChars (cs ++ [';'])).isOpen = (ofChars cs).isOpen := by
  rcases ho : (ofChars cs).isOpen
  · have hc : (ofChars cs).lexemes.any Lexeme.isOpen = false ∧
        gapIsOpen (ofChars cs).tail = false := Bool.or_eq_false_iff.mp ho
    have hs : Lexeme.isOpen ⟨.semicolon, [';']⟩ = false := rfl
    rw [ofChars_append_of_closed ho, ofChars_of_gap gap_nil]
    simpa [isOpen, lexemes, gapIsOpen_nil, hs] using hc.1
  · induction cs using ofChars.induct with
    | case1 cs g hg =>
      rw [isOpen_of_gap hg] at ho
      have hgo := gap_goesOn cs []
      rw [hg, ho] at hgo
      have hg' : gap (cs ++ [';']) = (g ++ [';'], []) := by
        simpa using goesOn_iff.mp hgo
      rw [isOpen_of_gap hg', gapIsOpen_snoc ho]
    | case2 cs g c ds hg r ih =>
      obtain ⟨k, body, rest, hs⟩ : ∃ k body rest, scan c ds = (k, body, rest) := ⟨_, _, _, rfl⟩
      simp only [r, hs] at ih
      obtain ⟨r', hr, hgo⟩ := scan_goesOn isDelimiter_semicolon hs []
      rw [isOpen_of_scan hg hs, Bool.or_eq_true] at ho
      rcases goesOn_iff.mp hgo with ⟨h, rfl⟩ | ⟨h, rfl, t, u, htu, rfl⟩
      · rw [isOpen_of_scan (gap_append_of_cons hg []) hr, h, Bool.false_or]
        exact ih (by simpa [h] using ho)
      · obtain ⟨rfl, rfl⟩ := List.append_eq_nil_iff.mp htu
        rw [isOpen_of_scan (gap_append_of_cons hg []) hr, ← List.cons_append,
          Lexeme.isOpen_snoc h, Bool.true_or]

end Layout

end QueryGate
