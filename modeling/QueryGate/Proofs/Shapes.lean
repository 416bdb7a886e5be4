import QueryGate.Proofs.Endings

/-!
What gaps and lexemes look like, said without the readers. A shape may depend on what follows: a
literal goes on to its closing quote, or to the end of the text. The readers take the longest match
of the shape that begins at a place.
-/

namespace QueryGate

namespace Text

/-- A text up to and with its only `mark`, which ends it, or up to the end of the input. -/
def UpTo (mark rest cs : List Char) : Prop :=
  (mark <:+ cs ∧ ∀ a b, cs = a ++ mark ++ b → b = []) ∨ (rest = [] ∧ ¬ mark <:+: cs)

lemma upTo_through {mark : List Char} (hm : mark ≠ []) (cs : List Char) :
    UpTo mark (through mark cs).2 (through mark cs).1 := by
  induction cs with
  | nil => exact .inr ⟨rfl, fun h => hm (List.infix_nil.mp h)⟩
  | cons c cs ih =>
    by_cases h : mark.isPrefixOf (c :: cs) = true
    · obtain ⟨t, ht⟩ := List.isPrefixOf_iff_prefix.mp h
      rw [← ht, through_self_append]
      refine .inl ⟨List.suffix_refl _, fun a b e => ?_⟩
      have hlength := congrArg List.length e
      simp only [List.length_append] at hlength
      exact List.length_eq_zero_iff.mp (by omega)
    · have hno : ¬ mark <+: c :: (through mark cs).1 := by
        rintro ⟨t, ht⟩
        refine h (List.isPrefixOf_iff_prefix.mpr ⟨t ++ (through mark cs).2, ?_⟩)
        rw [← List.append_assoc, ht, List.cons_append, through_append]
      rw [through, if_neg h]
      rcases ih with ⟨hend, honly⟩ | ⟨hrest, hnone⟩
      · refine .inl ⟨hend.trans (List.suffix_cons _ _), fun a b e => ?_⟩
        rcases a with _ | ⟨d, a⟩
        · exact (hno ⟨b, e.symm⟩).elim
        · rw [List.cons_append, List.cons_append, List.cons_eq_cons] at e
          exact honly a b e.2
      · refine .inr ⟨hrest, fun hin => ?_⟩
        rcases List.infix_cons_iff.mp hin with hp | hin
        · exact hno hp
        · exact hnone hin

/-- Of two texts up to a mark that begin one input, neither goes beyond the other. -/
lemma UpTo.length_le {mark rest rest' cs cs' : List Char} (h : UpTo mark rest cs)
    (h' : UpTo mark rest' cs') (e : cs ++ rest = cs' ++ rest') : cs'.length ≤ cs.length := by
  rcases h with ⟨⟨body, rfl⟩, -⟩ | ⟨rfl, -⟩
  · by_contra hlt
    have hpre : body ++ mark <+: cs' :=
      List.prefix_of_prefix_length_le ⟨rest, rfl⟩ (e ▸ List.prefix_append _ _) (by omega)
    obtain ⟨u, rfl⟩ := hpre
    rcases h' with ⟨-, honly⟩ | ⟨-, hnone⟩
    · rw [honly body u rfl, List.append_nil] at hlt
      exact hlt (Nat.le_refl _)
    · exact hnone ⟨body, u, rfl⟩
  · have hlength := congrArg List.length e
    simp only [List.length_append, List.length_nil] at hlength
    omega

lemma UpTo.through_eq {mark rest cs : List Char} (hm : mark ≠ []) (h : UpTo mark rest cs) :
    through mark (cs ++ rest) = (cs, rest) := by
  have hread := upTo_through hm (cs ++ rest)
  have happend := through_append mark (cs ++ rest)
  have hlength : (through mark (cs ++ rest)).1.length = cs.length :=
    Nat.le_antisymm (h.length_le hread happend.symm) (hread.length_le h happend)
  obtain ⟨h1, h2⟩ := List.append_inj happend hlength
  exact Prod.ext h1 h2

end Text

namespace Lexeme

/-! ### Shapes -/

/-- White space and comments. A line comment goes on to a line break, a block comment to the first
mark that closes one, and both to the end of the input when there is none. -/
inductive Gap (rest : List Char) : List Char → Prop
  | nil : Gap rest []
  | blank {c : Char} {cs : List Char} : Text.isBlank c = true → Gap rest cs → Gap rest (c :: cs)
  | line {body cs : List Char} : '\n' ∉ body → (∀ c ∈ (cs ++ rest).head?, c = '\n') →
      Gap rest cs → Gap rest ('-' :: '-' :: (body ++ cs))
  | block {body cs : List Char} : Text.UpTo ['*', '/'] (cs ++ rest) body →
      Gap rest cs → Gap rest ('/' :: '*' :: (body ++ cs))

/-- What follows an opening quote: the text up to the first quote that is not doubled, or up to the
end of the input. -/
inductive InQuotes (q : Char) (rest : List Char) : List Char → Prop
  | close : rest.head? ≠ some q → InQuotes q rest [q]
  | eof : rest = [] → InQuotes q rest []
  | doubled {cs : List Char} : InQuotes q rest cs → InQuotes q rest (q :: q :: cs)
  | other {c : Char} {cs : List Char} : c ≠ q → InQuotes q rest cs → InQuotes q rest (c :: cs)

/-- The tag of a literal in dollars: nothing, or a word without dollars. -/
def IsTag (tag : List Char) : Prop :=
  (∀ c ∈ tag, isTagChar c = true) ∧ ∀ c ∈ tag.head?, ¬ c.isDigit = true

/-- The shapes of lexemes in front of `rest`. -/
inductive Shape (rest : List Char) : Kind → List Char → Prop
  | word {c : Char} {cs : List Char} : isWordStart c = true → (∀ d ∈ cs, isWordPart d = true) →
      Shape rest .word (c :: cs)
  | quotedName {cs : List Char} : InQuotes '"' rest cs → Shape rest .quotedName ('"' :: cs)
  | string {cs : List Char} : InQuotes '\'' rest cs → Shape rest .string ('\'' :: cs)
  | dollars {tag cs : List Char} : IsTag tag → Text.UpTo ('$' :: tag ++ ['$']) rest cs →
      Shape rest .string ('$' :: (tag ++ '$' :: cs))
  | whole {c : Char} {cs : List Char} : c.isDigit = true → (∀ d ∈ cs, isWordPart d = true) →
      Shape rest .number (c :: cs)
  | fraction {c d : Char} {cs ds : List Char} : c.isDigit = true →
      (∀ x ∈ cs, isWordPart x = true) → d.isDigit = true → (∀ x ∈ ds, isWordPart x = true) →
      Shape rest .number (c :: (cs ++ '.' :: d :: ds))
  | dot : Shape rest .dot ['.']
  | comma : Shape rest .comma [',']
  | semicolon : Shape rest .semicolon [';']
  | openParen : Shape rest .openParen ['(']
  | closeParen : Shape rest .closeParen [')']
  | other (c : Char) : Shape rest .other [c]

/-- A lexeme is the longest match of its shape where it begins. No gap begins there, and no shape of
another kind matches there but that of any single character. -/
structure IsLongest (x : Lexeme) (rest : List Char) : Prop where
  shape : Shape rest x.kind x.chars
  longest : ∀ chars rest', chars ++ rest' = x.chars ++ rest → Shape rest' x.kind chars →
    chars.length ≤ x.chars.length
  kind : ∀ k chars rest', chars ++ rest' = x.chars ++ rest → Shape rest' k chars →
    k = x.kind ∨ k = .other
  gap : ∀ g rest', g ++ rest' = x.chars ++ rest → Gap rest' g → g = []

/-! ### Gaps -/

lemma gap_isGap (cs : List Char) : Gap (gap cs).2 (gap cs).1 := by
  induction cs using gap.induct with
  | case1 =>
    rw [gap_nil]
    exact .nil
  | case2 c ds hc ih =>
    rw [gap_blank hc]
    exact .blank hc ih
  | case3 c ds hc a b hab ih =>
    rw [gap_comment hab]
    unfold comment? at hab
    split at hab
    · next ds _ =>
      cases hab
      refine .line (fun hmem => ?_) (fun d hd => ?_) ih
      · simpa using List.all_eq_true.mp List.all_takeWhile _ hmem
      · rw [gap_append] at hd
        have := List.head?_dropWhile_not (· ≠ '\n') ds
        rw [Option.mem_def.mp hd] at this
        simpa using this
    · next ds _ =>
      cases hab
      refine .block ?_ ih
      rw [gap_append]
      exact Text.upTo_through (by simp) ds
    · cases hab
  | case4 c ds hc hn =>
    rw [gap_stop hc hn]
    exact .nil

/-- Where a reader finds no gap, none begins. -/
lemma Gap.eq_nil {g rest cs : List Char} (h : Gap rest g) (e : g ++ rest = cs)
    (hcs : Lexeme.gap cs = ([], cs)) : g = [] := by
  subst e
  cases h with
  | nil => rfl
  | blank hc _ => exact ((gap_rest hcs).2 hc).elim
  | line _ _ _ => exact absurd (comment?_of_gap hcs) (by simp [comment?])
  | block _ _ => exact absurd (comment?_of_gap hcs) (by simp [comment?])

/-! ### Quotes -/

lemma quoted_cons_of_ne {q c : Char} (hc : c ≠ q) (cs : List Char) :
    quoted q (c :: cs) = (c :: (quoted q cs).1, (quoted q cs).2) := by
  rcases cs with _ | ⟨d, cs⟩
  · rfl
  · rw [quoted, if_neg hc]

lemma quoted_inQuotes (q : Char) (cs : List Char) : InQuotes q (quoted q cs).2 (quoted q cs).1 := by
  induction cs using quoted.induct q with
  | case1 => exact .eof rfl
  | case2 c =>
    by_cases hc : c = q
    · exact hc ▸ .close (by simp [quoted])
    · exact .other hc (.eof rfl)
  | case3 cs ih =>
    simp only [quoted, if_true]
    exact .doubled ih
  | case4 d cs hd =>
    simp only [quoted, if_true, hd, if_false]
    exact .close (by simpa using hd)
  | case5 c d cs hc ih =>
    rw [quoted_cons_of_ne hc]
    exact .other hc ih

lemma InQuotes.quoted_eq {q : Char} {rest cs : List Char} (h : InQuotes q rest cs) :
    quoted q (cs ++ rest) = (cs, rest) := by
  induction h with
  | close hrest =>
    rcases rest with _ | ⟨d, rest⟩
    · rfl
    · have hd : d ≠ q := by simpa using hrest
      simp [quoted, hd]
  | eof hrest =>
    subst hrest
    rfl
  | doubled _ ih => simp [quoted, ih]
  | other hc _ ih => rw [List.cons_append, quoted_cons_of_ne hc, ih]

/-! ### Lexemes -/

lemma isTag_of_dollarTag? {cs tag : List Char} (h : dollarTag? cs = some tag) : IsTag tag := by
  obtain ⟨-, hall, hhead⟩ := dollarTag?_eq_some_iff.mp h
  refine ⟨hall, fun c hc => ?_⟩
  rw [Option.mem_def.mp hc] at hhead
  simpa using hhead

lemma IsTag.dollarTag? {tag : List Char} (h : IsTag tag) (cs : List Char) :
    dollarTag? (tag ++ '$' :: cs) = some tag := by
  refine dollarTag?_eq_some_iff.mpr ⟨⟨cs, rfl⟩, h.1, ?_⟩
  rcases hc : tag.head? with _ | c
  · rfl
  · simpa using h.2 c hc

lemma shape_markKind (c : Char) (rest : List Char) : Shape rest (markKind c) [c] := by
  unfold markKind
  split_ifs with h1 h2 h3 h4 h5
  · exact h1 ▸ .dot
  · exact h2 ▸ .comma
  · exact h3 ▸ .semicolon
  · exact h4 ▸ .openParen
  · exact h5 ▸ .closeParen
  · exact .other c

lemma shape_number {c : Char} (hc : c.isDigit = true) (cs : List Char) :
    Shape (number cs).2 .number (c :: (number cs).1) := by
  have hrun (ds : List Char) : ∀ x ∈ ds.takeWhile isWordPart, isWordPart x = true :=
    List.all_eq_true.mp List.all_takeWhile
  by_cases hf : ∃ d ds, cs.dropWhile isWordPart = '.' :: d :: ds ∧ d.isDigit = true
  · obtain ⟨d, ds, e, hd⟩ := hf
    rw [number_fraction e hd, List.takeWhile_cons_of_pos (isWordPart_of_isDigit hd)]
    exact .fraction hc (hrun cs) hd (hrun ds)
  · rw [number_whole fun d ds e hd => hf ⟨d, ds, e, hd⟩]
    exact .whole hc (hrun cs)

lemma shape_scan {c : Char} {cs a b : List Char} {k : Kind} (h : scan c cs = (k, a, b)) :
    Shape b k (c :: a) := by
  rcases scan_cases c cs with hc | rfl | rfl | ⟨rfl, tag, rest, rfl, ht⟩ | ⟨rfl, ht⟩ | ⟨hw, hc⟩ |
    hc
  · rw [scan_word hc] at h
    cases h
    exact .word hc (List.all_eq_true.mp List.all_takeWhile)
  · rw [scan_quotedName, Prod.mk.injEq] at h
    obtain ⟨rfl, h⟩ := h
    have hq := quoted_inQuotes '"' cs
    rw [h] at hq
    exact .quotedName hq
  · rw [scan_string, Prod.mk.injEq] at h
    obtain ⟨rfl, h⟩ := h
    have hq := quoted_inQuotes '\'' cs
    rw [h] at hq
    exact .string hq
  · rw [scan_dollar ht] at h
    cases h
    exact .dollars (isTag_of_dollarTag? ht) (Text.upTo_through (by simp) rest)
  · rw [scan_lone_dollar ht] at h
    cases h
    exact .other _
  · rw [scan_number hw hc, Prod.mk.injEq] at h
    obtain ⟨rfl, h⟩ := h
    have hn := shape_number hc cs
    rw [h] at hn
    exact hn
  · rw [scan_mark hc] at h
    cases h
    exact shape_markKind c _

lemma length_takeWhile_le_number (cs : List Char) :
    (cs.takeWhile isWordPart).length ≤ (number cs).1.length := by
  by_cases hf : ∃ d ds, cs.dropWhile isWordPart = '.' :: d :: ds ∧ d.isDigit = true
  · obtain ⟨d, ds, e, hd⟩ := hf
    rw [number_fraction e hd, List.length_append]
    omega
  · exact Nat.le_of_eq (by rw [number_whole fun d ds e hd => hf ⟨d, ds, e, hd⟩])

/-- Where a shape matches, a lexeme of its kind is read that is as long at least. -/
lemma Shape.exists_scan {rest chars : List Char} {k : Kind} (h : Shape rest k chars)
    (hk : k ≠ .other) : ∃ c cs a b, chars = c :: cs ∧ scan c (cs ++ rest) = (k, a, b) ∧
      cs.length ≤ a.length := by
  cases h with
  | @word c cs hc hcs =>
    refine ⟨c, cs, _, _, rfl, scan_word hc _, ?_⟩
    rw [List.takeWhile_append_of_pos hcs, List.length_append]
    omega
  | @quotedName cs hcs =>
    refine ⟨_, cs, cs, rest, rfl, ?_, Nat.le_refl _⟩
    rw [scan_quotedName, hcs.quoted_eq]
  | @string cs hcs =>
    refine ⟨_, cs, cs, rest, rfl, ?_, Nat.le_refl _⟩
    rw [scan_string, hcs.quoted_eq]
  | @dollars tag cs htag hcs =>
    refine ⟨_, _, tag ++ '$' :: cs, rest, rfl, ?_, Nat.le_refl _⟩
    rw [List.append_assoc, List.cons_append, scan_dollar (htag.dollarTag? _),
      hcs.through_eq (by simp)]
  | @whole c cs hc hcs =>
    refine ⟨c, cs, (number (cs ++ rest)).1, (number (cs ++ rest)).2, rfl,
      scan_number (not_isWordStart_of_isDigit hc) hc _, ?_⟩
    have hle := length_takeWhile_le_number (cs ++ rest)
    rw [List.takeWhile_append_of_pos hcs, List.length_append] at hle
    omega
  | @fraction c d cs ds hc hcs hd hds =>
    have hdot : ¬ isWordPart '.' = true := by decide
    have hds' : ∀ x ∈ d :: ds, isWordPart x = true :=
      List.forall_mem_cons.mpr ⟨isWordPart_of_isDigit hd, hds⟩
    have hassoc : cs ++ '.' :: d :: ds ++ rest = cs ++ '.' :: d :: (ds ++ rest) := by simp
    have hwhole : (cs ++ '.' :: d :: (ds ++ rest)).takeWhile isWordPart = cs := by
      rw [List.takeWhile_append_of_pos hcs, List.takeWhile_cons_of_neg hdot, List.append_nil]
    have hpoint : (cs ++ '.' :: d :: (ds ++ rest)).dropWhile isWordPart =
        '.' :: d :: (ds ++ rest) := by
      rw [List.dropWhile_append_of_pos hcs, List.dropWhile_cons_of_neg hdot]
    have hread : scan c (cs ++ '.' :: d :: ds ++ rest) =
        (.number, cs ++ '.' :: (d :: (ds ++ rest)).takeWhile isWordPart,
          (d :: (ds ++ rest)).dropWhile isWordPart) := by
      rw [scan_number (not_isWordStart_of_isDigit hc) hc, hassoc, number_fraction hpoint hd, hwhole]
    refine ⟨c, _, _, _, rfl, hread, ?_⟩
    rw [← List.cons_append, List.takeWhile_append_of_pos hds']
    simp only [List.length_append, List.length_cons]
    omega
  | dot => exact ⟨_, [], [], rest, rfl, rfl, Nat.le_refl _⟩
  | comma => exact ⟨_, [], [], rest, rfl, rfl, Nat.le_refl _⟩
  | semicolon => exact ⟨_, [], [], rest, rfl, rfl, Nat.le_refl _⟩
  | openParen => exact ⟨_, [], [], rest, rfl, rfl, Nat.le_refl _⟩
  | closeParen => exact ⟨_, [], [], rest, rfl, rfl, Nat.le_refl _⟩
  | other c => exact (hk rfl).elim

/-- **What is read is the longest match of its shape.** -/
theorem isLongest_of_scan {c : Char} {body rest : List Char} {k : Kind}
    (hs : scan c (body ++ rest) = (k, body, rest))
    (hg : Lexeme.gap (c :: (body ++ rest)) = ([], c :: (body ++ rest))) :
    IsLongest ⟨k, c :: body⟩ rest := by
  -- a shape that matches here begins with the same character, and is read from there
  have hread {k' : Kind} {chars rest' : List Char} (e : chars ++ rest' = c :: (body ++ rest))
      (h : Shape rest' k' chars) (hk : k' ≠ .other) : k' = k ∧ chars.length ≤ body.length + 1 := by
    obtain ⟨d, cs, a, b, rfl, hscan, hle⟩ := h.exists_scan hk
    obtain ⟨rfl, htail⟩ := List.cons_eq_cons.mp e
    have hsame : (k', a, b) = (k, body, rest) := by
      rw [← hscan, ← hs]
      exact congrArg (scan d) htail
    cases hsame
    exact ⟨rfl, by simpa using hle⟩
  refine ⟨shape_scan hs, fun chars rest' e h => ?_, fun k' chars rest' e h => ?_,
    fun g rest' e h => h.eq_nil e hg⟩
  · by_cases hk : k = .other
    · subst hk
      cases h
      simp
    · exact (hread e h hk).2
  · by_cases hk : k' = .other
    · exact .inr hk
    · exact .inl (hread e h hk).1

end Lexeme

end QueryGate
