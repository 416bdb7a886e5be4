import QueryGate.Proofs.Endings
import QueryGate.Proofs.Statements

/-!
The parts of a script, as texts. White space at the ends of the script does not matter to its
statements. A semicolon behind a text keeps the parts before and after it apart, unless the text
ends inside a comment, a literal or a quoted name: then it goes into the last part, together with
some of what follows, and there are fewer statements than semicolons.
-/

namespace QueryGate

open Lexeme

namespace Script

/-! ### The parts of a script -/

/-- The texts between the semicolons of a script. -/
def parts (cs : List Char) : List (List Char) :=
  pieces (Layout.ofChars cs).tail (Layout.ofChars cs).placed

/-- The parts that hold more than white space, without the white space around them. -/
def clean (ps : List (List Char)) : List (List Char) :=
  (ps.map Text.trimChars).filter (!·.isEmpty)

lemma splitChars_eq (cs : List Char) : splitChars cs = clean (parts cs) := rfl

lemma clean_append (ps qs : List (List Char)) : clean (ps ++ qs) = clean ps ++ clean qs := by
  simp [clean]

lemma clean_cons (p : List Char) (ps : List (List Char)) :
    clean (p :: ps) = clean [p] ++ clean ps :=
  clean_append [p] ps

lemma length_clean_le (ps : List (List Char)) : (clean ps).length ≤ ps.length := by
  simpa [clean] using List.length_filter_le (!·.isEmpty) (ps.map Text.trimChars)

lemma pieces_ne_nil (tail : List Char) (ps : List Placed) : pieces tail ps ≠ [] := by
  simpa [Layout.pieces_eq] using Layout.cut_ne_nil tail ps

lemma exists_parts (cs : List Char) : ∃ p ps, parts cs = p :: ps :=
  List.exists_cons_of_ne_nil (pieces_ne_nil _ _)

lemma pieces_cons (tail : List Char) (p : Placed) (ps : List Placed) :
    pieces tail (p :: ps) = if p.lexeme.kind = .semicolon then p.gap :: pieces tail ps
      else (pieces tail ps).modifyHead (p.gap ++ p.lexeme.chars ++ ·) := by
  obtain ⟨q, qs, h⟩ := List.exists_cons_of_ne_nil (pieces_ne_nil tail ps)
  rw [pieces, h]
  rfl

/-- A semicolon between two layouts keeps their parts apart. -/
lemma pieces_append (tail : List Char) (ps qs : List Placed) (g w : List Char) :
    pieces tail (ps ++ ⟨g, .semicolon, w⟩ :: qs) = pieces g ps ++ pieces tail qs := by
  induction ps with
  | nil => rfl
  | cons p ps ih =>
    obtain ⟨q, qs', h⟩ := List.exists_cons_of_ne_nil (pieces_ne_nil g ps)
    rw [List.cons_append, pieces_cons, pieces_cons, ih, h]
    split <;> rfl

lemma parts_of_gap {cs g : List Char} (h : gap cs = (g, [])) : parts cs = [g] := by
  rw [parts, Layout.ofChars_of_gap h]
  rfl

lemma parts_of_scan {cs g ds body rest : List Char} {c : Char} {k : Kind}
    (hg : gap cs = (g, c :: ds)) (hs : scan c ds = (k, body, rest)) :
    parts cs = if k = .semicolon then g :: parts rest
      else (parts rest).modifyHead (g ++ c :: body ++ ·) := by
  rw [parts, Layout.ofChars_of_scan hg hs]
  exact pieces_cons _ _ _

lemma parts_nil : parts [] = [[]] := parts_of_gap gap_nil

/-- The gap at the front of a text goes to its first part. -/
lemma parts_gap {cs g b : List Char} (h : gap cs = (g, b)) :
    parts cs = (parts b).modifyHead (g ++ ·) := by
  rcases b with _ | ⟨c, ds⟩
  · rw [parts_of_gap h, parts_nil]
    simp
  · obtain ⟨k, body, rest, hs⟩ : ∃ k body rest, scan c ds = (k, body, rest) := ⟨_, _, _, rfl⟩
    rw [parts_of_scan h hs, parts_of_scan (gap_rest h).1 hs]
    split
    · simp
    · obtain ⟨p, ps, hp⟩ := exists_parts rest
      simp [hp]

lemma parts_cons_blank {x : Char} (hx : Text.isBlank x = true) (cs : List Char) :
    parts (x :: cs) = (parts cs).modifyHead (x :: ·) := by
  have hg : gap cs = ((gap cs).1, (gap cs).2) := rfl
  obtain ⟨p, ps, hp⟩ := exists_parts (gap cs).2
  rw [parts_gap (gap_blank hx cs), parts_gap hg, hp]
  rfl

/-- White space behind a text goes to its last part. -/
lemma parts_snoc_blank {x : Char} (hx : Text.isBlank x = true) (cs : List Char) :
    ∃ ps p, parts cs = ps ++ [p] ∧ parts (cs ++ [x]) = ps ++ [p ++ [x]] := by
  induction cs using Layout.ofChars.induct with
  | case1 cs g hg =>
    have hx' : gap (cs ++ [x]) = (_, []) := Prod.ext rfl ((gap_snoc hx cs).2 (by rw [hg]))
    refine ⟨[], g, parts_of_gap hg, ?_⟩
    rw [parts_of_gap hx', ← eq_of_gap hx', eq_of_gap hg, List.nil_append]
  | case2 cs g c ds hg r ih =>
    obtain ⟨k, body, rest, hs⟩ : ∃ k body rest, scan c ds = (k, body, rest) := ⟨_, _, _, rfl⟩
    simp only [r, hs] at ih
    have hg' := gap_snoc_of_cons hx hg
    rw [parts_of_scan hg hs]
    rcases scan_snoc hx hs with h | ⟨rfl, hk, h⟩
    · rw [parts_of_scan hg' h]
      obtain ⟨ps, p, h1, h2⟩ := ih
      rw [h1, h2]
      split
      · exact ⟨g :: ps, p, rfl, rfl⟩
      · rcases ps with _ | ⟨q, ps⟩
        · exact ⟨[], g ++ c :: body ++ p, rfl, by simp⟩
        · exact ⟨(g ++ c :: body ++ q) :: ps, p, rfl, rfl⟩
    · have hn : k ≠ .semicolon := by rintro rfl; simp at hk
      rw [parts_of_scan hg' h, if_neg hn, if_neg hn, parts_nil]
      exact ⟨[], g ++ c :: body, by simp, by simp⟩

lemma clean_trimStart (cs : List Char) :
    clean (parts (Text.trimStart cs)) = clean (parts cs) := by
  induction cs with
  | nil => rfl
  | cons c cs ih =>
    by_cases hc : Text.isBlank c = true
    · obtain ⟨p, ps, hp⟩ := exists_parts cs
      rw [Text.trimStart_cons_blank hc, ih, parts_cons_blank hc, hp]
      simp [clean, Text.trimChars_cons_blank hc]
    · rw [Text.trimStart, List.dropWhile_cons_of_neg hc]

lemma clean_append_blank {w : List Char} (hw : ∀ x ∈ w, Text.isBlank x = true)
    (cs : List Char) : clean (parts (cs ++ w)) = clean (parts cs) := by
  induction w generalizing cs with
  | nil => rw [List.append_nil]
  | cons x w ih =>
    obtain ⟨ps, p, h1, h2⟩ := parts_snoc_blank (hw x List.mem_cons_self) cs
    have h := ih (fun y hy => hw y (List.mem_cons_of_mem x hy)) (cs ++ [x])
    rw [List.append_assoc, List.singleton_append] at h
    rw [h, h1, h2]
    simp [clean, Text.trimChars_snoc_blank (hw x List.mem_cons_self)]

/-- The white space around a script does not matter to its statements. -/
theorem splitChars_trimChars (cs : List Char) : splitChars (Text.trimChars cs) = splitChars cs := by
  obtain ⟨w, hw, hb⟩ := Text.trimEnd_append (Text.trimStart cs)
  have h := clean_append_blank hb (Text.trimChars cs)
  rw [Text.trimChars, hw, clean_trimStart] at h
  exact h.symm

lemma splitChars_cons_blank {x : Char} (hx : Text.isBlank x = true) (cs : List Char) :
    splitChars (x :: cs) = splitChars cs := by
  rw [← splitChars_trimChars (x :: cs), Text.trimChars_cons_blank hx, splitChars_trimChars]

/-! ### A semicolon behind a text -/

lemma parts_append_of_closed {cs : List Char} (h : (Layout.ofChars cs).isOpen = false)
    (s : List Char) : parts (cs ++ ';' :: s) = parts cs ++ parts s := by
  rw [parts, Layout.ofChars_append_of_closed h]
  exact pieces_append _ _ _ _ _

/-- A text that is open takes the semicolon, and part of the text behind it, into its last part. -/
theorem parts_append_of_open {cs : List Char} (h : (Layout.ofChars cs).isOpen = true)
    (s : List Char) : ∃ ps p a b, a ++ b = s ∧ parts cs = ps ++ [p] ∧ Text.trimChars p ≠ [] ∧
      parts (cs ++ ';' :: s) = ps ++ (parts b).modifyHead (p ++ ';' :: a ++ ·) := by
  induction cs using Layout.ofChars.induct with
  | case1 cs g hg =>
    rw [Layout.isOpen_of_gap hg] at h
    have hgo := gap_goesOn cs s
    rw [hg, h] at hgo
    obtain ⟨a, b, hab, hr⟩ : ∃ a b, a ++ b = s ∧ gap (cs ++ ';' :: s) = (g ++ ';' :: a, b) := by
      simpa using goesOn_iff.mp hgo
    refine ⟨[], g, a, b, hab, parts_of_gap hg, fun hp => ?_, parts_gap hr⟩
    rw [eq_of_gap hg, gapIsOpen_of_blank (Text.blank_of_trimChars_eq_nil hp)] at h
    cases h
  | case2 cs g c ds hg r ih =>
    obtain ⟨k, body, rest, hs⟩ : ∃ k body rest, scan c ds = (k, body, rest) := ⟨_, _, _, rfl⟩
    simp only [r, hs] at ih
    obtain ⟨r', hr, hgo⟩ := scan_goesOn isDelimiter_semicolon hs s
    rw [Layout.isOpen_of_scan hg hs, Bool.or_eq_true] at h
    have hc : ∀ q, Text.trimChars (g ++ c :: body ++ q) ≠ [] := fun q hq =>
      (gap_rest hg).2 (Text.blank_of_trimChars_eq_nil hq c (by simp))
    have hg' := Layout.gap_append_of_cons hg s
    rcases goesOn_iff.mp hgo with ⟨ho, rfl⟩ | ⟨ho, rfl, a, b, hab, rfl⟩
    · obtain ⟨ps, p, a, b, hab, h1, h2, h3⟩ := ih (by simpa [ho] using h)
      rw [parts_of_scan hg hs, parts_of_scan hg' hr, h1, h3]
      split
      · exact ⟨g :: ps, p, a, b, hab, rfl, h2, rfl⟩
      · rcases ps with _ | ⟨q, ps⟩
        · refine ⟨[], g ++ c :: body ++ p, a, b, hab, rfl, hc p, ?_⟩
          obtain ⟨q, qs, hq⟩ := exists_parts b
          simp [hq]
        · exact ⟨(g ++ c :: body ++ q) :: ps, p, a, b, hab, rfl, h2, rfl⟩
    · -- the last lexeme is open, and takes what is added
      have hn : k ≠ .semicolon := by
        rintro rfl
        cases ho
      rw [parts_of_scan hg hs, parts_of_scan hg' hr, if_neg hn, if_neg hn, parts_nil]
      refine ⟨[], g ++ c :: body, a, b, hab, by simp, by simpa using hc [], ?_⟩
      obtain ⟨q, qs, hq⟩ := exists_parts b
      simp [hq]

/-! ### How many statements there are -/

lemma length_le_count_intercalate (ps : List (List Char)) :
    ps.length ≤ ([';'].intercalate ps).count ';' + 1 := by
  induction ps with
  | nil => simp
  | cons p ps ih =>
    rcases ps with _ | ⟨q, ps⟩
    · simp
    · rw [List.intercalate_cons_cons, List.count_append, List.count_append]
      simp only [List.length_cons, List.count_singleton_self] at ih ⊢
      omega

/-- A script is its parts with semicolons between them. -/
lemma intercalate_parts (cs : List Char) : [';'].intercalate (parts cs) = cs := by
  have h := Layout.toChars_eq_intercalate (Layout.lexed_ofChars cs)
  rw [Layout.toChars_ofChars, Layout.statements, ← Layout.pieces_eq] at h
  exact h.symm

lemma length_parts_le (cs : List Char) : (parts cs).length ≤ cs.count ';' + 1 := by
  have h := length_le_count_intercalate (parts cs)
  rwa [intercalate_parts] at h

/-- A script with a semicolon at its end has at most one statement for each semicolon, also when
its first part is changed. -/
lemma length_clean_modifyHead_le (f : List Char → List Char) (cs : List Char) :
    (clean ((parts (cs ++ [';'])).modifyHead f)).length ≤ cs.count ';' + 1 := by
  have hl := length_parts_le cs
  rcases ho : (Layout.ofChars cs).isOpen
  · obtain ⟨p, ps, hp⟩ := exists_parts cs
    have hc := length_clean_le (f p :: ps)
    rw [parts_append_of_closed ho, parts_nil, hp, List.cons_append, List.modifyHead_cons,
      ← List.cons_append, clean_append, List.length_append]
    rw [hp] at hl
    exact Nat.le_trans hc hl
  · obtain ⟨ps, p, a, b, hab, h1, -, h2⟩ := parts_append_of_open ho []
    obtain ⟨rfl, rfl⟩ := List.append_eq_nil_iff.mp hab
    refine Nat.le_trans (length_clean_le _) ?_
    rw [List.length_modifyHead, h2, parts_nil]
    rw [h1] at hl
    simpa using hl

/-- Behind a text that is open, a script has fewer statements than semicolons. -/
lemma length_splitChars_of_open {cs : List Char} (h : (Layout.ofChars cs).isOpen = true)
    (s : List Char) :
    (splitChars (cs ++ ';' :: (s ++ [';']))).length ≤
      (splitChars cs).length + s.count ';' := by
  obtain ⟨ps, p, a, b, hab, h1, hp, h2⟩ := parts_append_of_open h (s ++ [';'])
  have hb : (clean ((parts b).modifyHead (p ++ ';' :: a ++ ·))).length ≤ s.count ';' + 1 := by
    rcases List.eq_nil_or_concat b with rfl | ⟨b, x, rfl⟩
    · exact Nat.le_trans (length_clean_le _) (by simp [parts_nil])
    · rw [List.concat_eq_append, ← List.append_assoc] at hab
      obtain ⟨rfl, hx⟩ := List.append_inj' hab rfl
      obtain rfl := List.singleton_inj.mp hx
      rw [List.concat_eq_append, List.count_append]
      exact Nat.le_trans (length_clean_modifyHead_le _ b) (by omega)
  have hc : clean [p] = [Text.trimChars p] := by simp [clean, hp]
  rw [splitChars_eq, splitChars_eq, h1, h2, clean_append, clean_append, hc]
  simp only [List.length_append, List.length_singleton]
  omega

lemma exists_terminate (cs : List Char) :
    ∃ v, terminate cs = v ++ [';'] ∧ (cs = v ∨ cs = v ++ [';']) := by
  unfold terminate
  split
  · next h =>
    obtain ⟨v, rfl⟩ := List.getLast?_eq_some_iff.mp h
    exact ⟨v, rfl, .inr rfl⟩
  · exact ⟨cs, rfl, .inl rfl⟩

lemma splitChars_snoc_of_closed {cs : List Char} (h : (Layout.ofChars cs).isOpen = false) :
    splitChars (cs ++ [';']) = splitChars cs := by
  rw [splitChars_eq, splitChars_eq, parts_append_of_closed h, parts_nil, clean_append]
  exact List.append_nil _

/-- A semicolon behind a text adds no statement, and takes none away. -/
lemma length_splitChars_snoc (cs : List Char) :
    (splitChars (cs ++ [';'])).length = (splitChars cs).length := by
  rcases ho : (Layout.ofChars cs).isOpen
  · rw [splitChars_snoc_of_closed ho]
  · obtain ⟨ps, p, a, b, hab, h1, hp, h2⟩ := parts_append_of_open ho []
    obtain ⟨rfl, rfl⟩ := List.append_eq_nil_iff.mp hab
    have hp' : Text.trimChars (p ++ [';']) ≠ [] := fun h =>
      absurd (Text.blank_of_trimChars_eq_nil h ';' (by simp)) (by decide)
    simp [splitChars_eq, h1, h2, parts_nil, clean, hp, hp']

/-- **A statement with its semicolon and the statements behind it are split apart just when it ends
outside comments and quotes.** -/
theorem splitChars_terminate_append_iff {s : List Char}
    (hs : s.count ';' < (splitChars (s ++ [';'])).length) (cs : List Char) :
    splitChars (terminate cs ++ (s ++ [';'])) = splitChars cs ++ splitChars (s ++ [';']) ↔
      (Layout.ofChars cs).isOpen = false := by
  obtain ⟨v, hv, hcs⟩ := exists_terminate cs
  have ho : (Layout.ofChars cs).isOpen = (Layout.ofChars v).isOpen := by
    rcases hcs with rfl | rfl
    · rfl
    · exact Layout.isOpen_snoc v
  have hl : (splitChars cs).length = (splitChars v).length := by
    rcases hcs with rfl | rfl
    · rfl
    · exact length_splitChars_snoc v
  rw [hv, ho, List.append_assoc, List.singleton_append]
  rcases hv' : (Layout.ofChars v).isOpen
  · have he : splitChars cs = splitChars v := by
      rcases hcs with rfl | rfl
      · rfl
      · exact splitChars_snoc_of_closed hv'
    simp only [he, splitChars_eq, parts_append_of_closed hv', clean_append]
  · refine iff_of_false (fun h => ?_) (by simp)
    have hlt := length_splitChars_of_open hv' s
    rw [h, List.length_append] at hlt
    omega

end Script

end QueryGate
