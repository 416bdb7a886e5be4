import QueryGate.Proofs.Keywords
import QueryGate.Proofs.Spans

/-!
Keywords among the lexemes of a text. Where no word character is beyond ASCII, a word that is read
as a lexeme stands alone in the text: what is read before it, be it a gap or a lexeme, ends where no
word can go on.
-/

namespace QueryGate

open Lexeme

/-! ### Places between lexemes -/

/-- A place in a text where no word goes on: none ends before it, or none begins behind it. -/
def Parted (before rest : List Char) : Prop :=
  (∀ c ∈ before.getLast?, Text.isWordChar c = false) ∨ ∀ c ∈ rest.head?, isWordStart c = false

namespace Parted

variable {before rest : List Char}

lemma of_concat (a : List Char) {m : Char} (hm : Text.isWordChar m = false) :
    Parted (a ++ [m]) rest := by
  refine .inl fun c hc => ?_
  rw [List.getLast?_concat, Option.mem_some] at hc
  rwa [← hc]

lemma of_nil : Parted before [] := .inr (by simp)

lemma append (h : Parted before rest) (hne : before ≠ []) (a : List Char) :
    Parted (a ++ before) rest := by
  rcases h with h | h
  · refine .inl fun c hc => h c ?_
    rwa [List.getLast?_append_of_ne_nil _ hne] at hc
  · exact .inr h

lemma of_upTo (mark : List Char) {cs : List Char} {m : Char} (hm : Text.isWordChar m = false)
    (h : Text.UpTo (mark ++ [m]) rest cs) (a : List Char) : Parted (a ++ cs) rest := by
  rcases h with ⟨⟨inner, rfl⟩, -⟩ | ⟨rfl, -⟩
  · rw [← List.append_assoc, ← List.append_assoc]
    exact .of_concat _ hm
  · exact .of_nil

end Parted

namespace Lexeme

lemma not_wordPart_of_dropWhile (cs : List Char) :
    ∀ c ∈ (cs.dropWhile isWordPart).head?, isWordPart c = false := by
  intro c hc
  have := List.head?_dropWhile_not isWordPart cs
  rw [Option.mem_def.mp hc] at this
  simpa using this

/-- No word begins behind the longest row of characters that can be part of one. -/
lemma parted_dropWhile (before cs : List Char) : Parted before (cs.dropWhile isWordPart) := by
  refine .inr fun c hc => Bool.eq_false_iff.mpr fun h => ?_
  have hpart := not_wordPart_of_dropWhile cs c hc
  rw [isWordPart_of_isWordStart h] at hpart
  cases hpart

lemma parted_number (before cs : List Char) : Parted before (number cs).2 := by
  by_cases hf : ∃ d ds, cs.dropWhile isWordPart = '.' :: d :: ds ∧ d.isDigit = true
  · obtain ⟨d, ds, e, hd⟩ := hf
    rw [number_fraction e hd]
    exact parted_dropWhile ..
  · rw [number_whole fun d ds e hd => hf ⟨d, ds, e, hd⟩]
    exact parted_dropWhile ..

lemma Gap.parted {g rest : List Char} (h : Gap rest g) (hne : g ≠ []) : Parted g rest := by
  induction h with
  | nil => exact (hne rfl).elim
  | @blank c cs hc _ ih =>
    rcases List.eq_nil_or_concat cs with rfl | ⟨_, _, rfl⟩
    · exact .of_concat [] (Text.isWordChar_of_isBlank hc)
    · exact (ih (by simp)).append (by simp) [c]
  | @line body cs _ hbreak _ ih =>
    rcases List.eq_nil_or_concat cs with rfl | ⟨_, _, rfl⟩
    · refine .inr fun c hc => ?_
      obtain rfl := hbreak c hc
      decide
    · exact (ih (by simp)).append (by simp) ('-' :: '-' :: body)
  | @block body cs hbody _ ih =>
    rcases List.eq_nil_or_concat cs with rfl | ⟨_, _, rfl⟩
    · rw [List.append_nil]
      exact .of_upTo ['*'] (by decide) hbody ['/', '*']
    · exact (ih (by simp)).append (by simp) ('/' :: '*' :: body)

lemma InQuotes.parted {q : Char} {rest cs : List Char} (h : InQuotes q rest cs)
    (hq : Text.isWordChar q = false) (a : List Char) : Parted (a ++ cs) rest := by
  induction h generalizing a with
  | close => exact .of_concat a hq
  | eof hrest =>
    subst hrest
    exact .of_nil
  | doubled _ ih => simpa using ih (a ++ [q, q])
  | @other c _ _ _ ih => simpa using ih (a ++ [c])

lemma isWordChar_of_isWordPart {c : Char} (h : isWordPart c = true) (hc : c ≠ '$') :
    Text.isWordChar c = true := by
  refine Hazard.isWordChar_of_isKeywordChar ?_
  simpa [isWordPart, Hazard.isKeywordChar, hc] using h

/-- Up to dollars, words are made of the same characters where none of them is beyond ASCII. -/
lemma isWordPart_of_isWordChar {c : Char} (hplain : 128 ≤ c.toNat → Text.isWordChar c = false)
    (h : Text.isWordChar c = true) : isWordPart c = true := by
  by_cases hc : c.toNat < 128
  · rw [Text.isWordChar, if_pos hc] at h
    rw [isWordPart, h, Bool.true_or]
  · rw [hplain (by omega)] at h
    cases h

lemma isWordChar_of_isMark {c : Char} (h : IsMark c)
    (hplain : 128 ≤ c.toNat → Text.isWordChar c = false) : Text.isWordChar c = false := by
  obtain ⟨hstart, -, -, hdollar, hdigit⟩ := h
  refine Bool.eq_false_iff.mpr fun hc => ?_
  have hpart := isWordPart_of_isWordChar hplain hc
  simp only [isWordStart, Bool.or_eq_true, not_or] at hstart
  simp [isWordPart, Char.isAlphanum, hstart, hdigit, hdollar] at hpart

lemma scan_parted {c : Char} (hplain : 128 ≤ c.toNat → Text.isWordChar c = false)
    {cs a b : List Char} {k : Kind} (h : scan c cs = (k, a, b)) : Parted (c :: a) b := by
  rcases scan_cases c cs with hc | rfl | rfl | ⟨rfl, tag, rest, rfl, ht⟩ | ⟨rfl, ht⟩ | ⟨hw, hc⟩ |
    hc
  · rw [scan_word hc] at h
    cases h
    exact parted_dropWhile ..
  · rw [scan_quotedName, Prod.mk.injEq] at h
    obtain ⟨rfl, h⟩ := h
    have hq := quoted_inQuotes '"' cs
    rw [h] at hq
    exact hq.parted (by decide) ['"']
  · rw [scan_string, Prod.mk.injEq] at h
    obtain ⟨rfl, h⟩ := h
    have hq := quoted_inQuotes '\'' cs
    rw [h] at hq
    exact hq.parted (by decide) ['\'']
  · rw [scan_dollar ht] at h
    cases h
    have hend : Text.UpTo ('$' :: tag ++ ['$']) _ _ := Text.upTo_through (by simp) rest
    simpa using Parted.of_upTo ('$' :: tag) (by decide) hend ('$' :: (tag ++ ['$']))
  · rw [scan_lone_dollar ht] at h
    cases h
    exact .of_concat [] (by decide)
  · rw [scan_number hw hc, Prod.mk.injEq] at h
    obtain ⟨rfl, h⟩ := h
    have hn := parted_number (c :: a) cs
    rwa [h] at hn
  · rw [scan_mark hc] at h
    cases h
    exact .of_concat [] (isWordChar_of_isMark hc hplain)

end Lexeme

namespace Layout

/-- A text whose characters beyond ASCII are no part of any word. -/
def HasAsciiWords (cs : List Char) : Prop :=
  ∀ c ∈ cs, 128 ≤ c.toNat → Text.isWordChar c = false

instance (cs : List Char) : Decidable (HasAsciiWords cs) :=
  decidable_of_iff (cs.all fun c => c.toNat < 128 || !Text.isWordChar c) (by
    simp [HasAsciiWords, imp_iff_not_or])

lemma Fits.parted {p : Placed} {rest : List Char} (h : Fits p rest)
    (hascii : HasAsciiWords p.lexeme.chars) : Parted p.lexeme.chars rest := by
  obtain ⟨-, c, body, hb, hs⟩ := h
  rw [hb]
  exact scan_parted (hascii c (by simp [hb])) hs

/-- The text in front of a lexeme ends where no word goes on. -/
lemma Fits.parted_gap {p : Placed} {before rest : List Char} (h : Fits p rest)
    (hbefore : Parted before (p.gap ++ p.lexeme.chars ++ rest)) :
    Parted (before ++ p.gap) (p.lexeme.chars ++ rest) := by
  by_cases hg : p.gap = []
  · simpa [hg] using hbefore
  · exact (h.isGap.parted hg).append hg before

/-- A word without dollars is a whole run of word characters. -/
lemma Fits.isWordRun {p : Placed} {before rest : List Char} (h : Fits p rest)
    (hbefore : Parted before (p.lexeme.chars ++ rest)) (hascii : HasAsciiWords rest)
    (hkind : p.lexeme.kind = .word) (hdollar : '$' ∉ p.lexeme.chars) :
    Text.IsWordRun (before ++ (p.lexeme.chars ++ rest)) p.lexeme.chars := by
  obtain ⟨-, c, body, hb, hs⟩ := id h
  have hshape := h.isLongest.shape
  rw [hkind] at hshape hs
  rw [hb] at hshape hbefore hdollar ⊢
  obtain ⟨hc, hbody⟩ : isWordStart c = true ∧ ∀ d ∈ body, isWordPart d = true := by
    cases hshape with
    | word hc hbody => exact ⟨hc, hbody⟩
  have hstop : (body ++ rest).dropWhile isWordPart = rest := by
    rw [scan_word hc] at hs
    exact (Prod.mk.inj (Prod.mk.inj hs).2).2
  refine ⟨by simp, fun d hd => isWordChar_of_isWordPart ?_ ?_,
    before, rest, by simp, fun d hd => ?_, fun d hd => ?_⟩
  · rcases List.mem_cons.mp hd with rfl | hd
    · exact isWordPart_of_isWordStart hc
    · exact hbody d hd
  · rintro rfl
    exact hdollar hd
  · rcases hbefore with hbefore | hbefore
    · exact hbefore d hd
    · rw [hbefore c rfl] at hc
      cases hc
  · have hpart : isWordPart d = false := by
      rw [← hstop] at hd
      exact not_wordPart_of_dropWhile _ d hd
    refine Bool.eq_false_iff.mpr fun hword => ?_
    rw [isWordPart_of_isWordChar (hascii d (List.mem_of_head? hd)) hword] at hpart
    cases hpart

/-- A word of a text is one of its runs of word characters, whatever is read before it. -/
lemma isWordRun_of_mem {ps : List Placed} {t : List Char} (h : Lexed ⟨ps, t⟩)
    (hascii : HasAsciiWords (toChars ⟨ps, t⟩)) (before : List Char)
    (hbefore : Parted before (toChars ⟨ps, t⟩)) {p : Placed} (hp : p ∈ ps)
    (hkind : p.lexeme.kind = .word) (hdollar : '$' ∉ p.lexeme.chars) :
    Text.IsWordRun (before ++ toChars ⟨ps, t⟩) p.lexeme.chars := by
  induction ps generalizing before with
  | nil => cases hp
  | cons q ps ih =>
    obtain ⟨hq, hps⟩ := lexed_cons_iff.mp h
    rw [toChars_cons] at hascii hbefore ⊢
    simp only [HasAsciiWords, List.mem_append, or_imp, forall_and] at hascii
    obtain ⟨⟨-, hchars⟩, hrest⟩ := hascii
    have hgap := hq.parted_gap hbefore
    rcases List.mem_cons.mp hp with rfl | hp
    · simpa using hq.isWordRun hgap hrest hkind hdollar
    · simpa using ih hps hrest _ ((hq.parted hchars).append hq.ne_nil (before ++ q.gap)) hp

end Layout

lemma Lexeme.isWordRun_of_mem_ofText {sql : String} (h : Layout.HasAsciiWords sql.toList)
    {x : Lexeme} (hx : x ∈ ofText sql) (hkind : x.kind = .word) (hdollar : '$' ∉ x.chars) :
    Text.IsWordRun sql.toList x.chars := by
  obtain ⟨p, hp, rfl⟩ := List.mem_map.mp hx
  have hsql : Layout.toChars ⟨(Layout.ofText sql).placed, (Layout.ofText sql).tail⟩ = sql.toList :=
    Layout.toChars_ofChars sql.toList
  have hrun := Layout.isWordRun_of_mem (Layout.lexed_ofChars sql.toList) (by rwa [← hsql] at h)
    [] (.inl (by simp)) hp hkind hdollar
  rw [List.nil_append] at hrun
  rwa [← hsql]

/-! ### Keywords -/

namespace Hazard

variable {raws : List String} {p : Policy} {k : String}

lemma map_toUpper_of_mem (h : Policy.ofList raws = .ok p) (hk : k ∈ p.keywords) :
    k.toList.map Char.toUpper = k.toList := by
  rw [(Policy.ofList_eq_ok_iff.mp h).2.2, List.mem_eraseDups, List.mem_map] at hk
  obtain ⟨raw, -, rfl⟩ := hk
  rw [spelling, Text.upper, String.toList_ofList]
  conv_rhs => rw [← List.map_id (List.flatMap _ _)]
  refine List.map_congr_left fun e he => ?_
  obtain ⟨c, -, he⟩ := List.mem_flatMap.mp he
  exact Text.toUpper_of_mem_upperChar he

/-- A word that is a keyword whatever its case has the spelling of the keyword, and no dollars. -/
lemma fold_of_isKeyword (h : Policy.ofList raws = .ok p) (hk : k ∈ p.keywords) {x : Lexeme}
    (hx : x.isKeyword k = true) : fold x.chars = k.toList ∧ '$' ∉ x.chars := by
  have hlower : x.chars.map Char.toLower = k.toList.map Char.toLower := by
    simp only [Lexeme.isKeyword, Bool.and_eq_true, Text.eqIgnoringAsciiCase, Text.lowerAscii,
      beq_iff_eq, String.ofList_inj, Lexeme.text, String.toList_ofList] at hx
    exact hx.2
  have hupper : x.chars.map Char.toUpper = k.toList := by
    have hmap (cs : List Char) : (cs.map Char.toLower).map Char.toUpper = cs.map Char.toUpper := by
      simp only [List.map_map, Function.comp_def, Text.toUpper_toLower]
    rw [← hmap, hlower, hmap, map_toUpper_of_mem h hk]
  have hchar : ∀ c ∈ x.chars, isKeywordChar c = true := by
    intro c hc
    rw [← isKeywordChar_toUpper]
    exact (Policy.isPlain_of_mem h hk).2 _ (hupper ▸ List.mem_map_of_mem hc)
  refine ⟨?_, fun hmem => absurd (hchar '$' hmem) (by decide)⟩
  rw [← hupper]
  refine List.map_congr_left fun c hc => if_neg ?_
  rintro rfl
  exact absurd (hchar _ hc) (by decide)

/-- **No keyword is missed that is read as a word.** Where no word character is beyond ASCII, a
report names every keyword of its policy that is among the lexemes of the text, in any case. -/
theorem Policy.mem_matched_of_isKeyword (h : ofList raws = .ok p) {sql : String}
    (hascii : Layout.HasAsciiWords sql.toList) {x : Lexeme} (hx : x ∈ Lexeme.ofText sql)
    (hk : k ∈ p.keywords) (hword : x.isKeyword k = true) : k ∈ (p.report sql).matched := by
  obtain ⟨hfold, hdollar⟩ := fold_of_isKeyword h hk hword
  have hkind : x.kind = .word := by
    rw [Lexeme.isKeyword, Bool.and_eq_true, decide_eq_true_eq] at hword
    exact hword.1
  have hrun := Lexeme.isWordRun_of_mem_ofText hascii hx hkind hdollar
  exact mem_matched_iff.mpr ⟨hk, x.chars, Text.mem_wordRuns_iff.mpr hrun, hfold⟩

/-- A keyword behind a word with a dollar and a comment. -/
theorem Policy.standard_matched_drop :
    ofList standard.keywords = .ok standard ∧
      Layout.HasAsciiWords "x$→--y\ndRoP/*z*/t".toList ∧
      ⟨.word, "dRoP".toList⟩ ∈ Lexeme.ofText "x$→--y\ndRoP/*z*/t" ∧
      "DROP" ∈ (standard.report "x$→--y\ndRoP/*z*/t").matched := by
  have hlist : ofList standard.keywords = .ok standard :=
    ofList_eq_ok_iff.mpr ⟨by decide, by decide +kernel, by decide +kernel⟩
  have hascii : Layout.HasAsciiWords "x$→--y\ndRoP/*z*/t".toList := by decide +kernel
  have hmem : ⟨.word, "dRoP".toList⟩ ∈ Lexeme.ofText "x$→--y\ndRoP/*z*/t" := by decide +kernel
  exact ⟨hlist, hascii, hmem, mem_matched_of_isKeyword hlist hascii hmem (by decide) (by decide)⟩

/-- A letter beyond ASCII makes a longer word of a keyword, though not of its lexeme. -/
example : ⟨.word, "DROP".toList⟩ ∈ Lexeme.ofText "éDROP" ∧
    (Policy.standard.report "éDROP").matched = [] := by
  decide +kernel

end Hazard

end QueryGate
