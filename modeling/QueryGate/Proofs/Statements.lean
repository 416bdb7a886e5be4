import Mathlib.Data.List.DropRight
import QueryGate.Proofs.Trimming
import QueryGate.Script

/-!
The statements of a script. A script is cut at its semicolons as a text, and the parts are read on
their own afterwards. Cutting the lexemes of the whole script instead leads to the same: each part
is read as the lexemes that it has in the script.
-/

namespace QueryGate

open Lexeme

def Lexeme.isSemicolon (x : Lexeme) : Bool := x.kind = .semicolon

namespace Layout

/-- The layouts between the semicolons of a layout that ends with the gap `tail`. -/
def cut (tail : List Char) : List Placed → List Layout
  | [] => [⟨[], tail⟩]
  | p :: ps =>
    if p.lexeme.isSemicolon then ⟨[], p.gap⟩ :: cut tail ps
    else (cut tail ps).modifyHead fun l => ⟨p :: l.placed, l.tail⟩

def statements (l : Layout) : List Layout := cut l.tail l.placed

lemma cut_ne_nil (tail : List Char) (ps : List Placed) : cut tail ps ≠ [] := by
  induction ps with
  | nil => simp [cut]
  | cons p ps ih =>
    rw [cut]
    split
    · simp
    · simpa using ih

lemma pieces_eq (tail : List Char) (ps : List Placed) :
    Script.pieces tail ps = (cut tail ps).map toChars := by
  induction ps with
  | nil => rfl
  | cons p ps ih =>
    obtain ⟨l, ls, hl⟩ := List.exists_cons_of_ne_nil (cut_ne_nil tail ps)
    rw [Script.pieces, cut, ih, hl]
    by_cases hp : p.lexeme.kind = .semicolon
    · simp [Lexeme.isSemicolon, hp, toChars]
    · simp [Lexeme.isSemicolon, hp, toChars]

lemma map_lexemes_cut (tail : List Char) (ps : List Placed) :
    (cut tail ps).map lexemes = (ps.map Placed.lexeme).splitOnP isSemicolon := by
  induction ps with
  | nil => rfl
  | cons p ps ih =>
    obtain ⟨l, ls, hl⟩ := List.exists_cons_of_ne_nil (cut_ne_nil tail ps)
    rw [List.map_cons, List.splitOnP_cons_eq_if_modifyHead, ← ih, cut, hl]
    split
    · simp [lexemes]
    · simp [lexemes]

/-- A text begins with its first statement. -/
lemma toChars_head_cut {tail : List Char} {ps : List Placed} {l : Layout} {ls : List Layout}
    (h : cut tail ps = l :: ls) : l.toChars <+: toChars ⟨ps, tail⟩ := by
  induction ps generalizing l ls with
  | nil =>
    cases h
    exact List.prefix_refl _
  | cons p ps ih =>
    rw [cut] at h
    split at h
    · cases h
      rw [toChars_cons, toChars_nil, List.append_assoc]
      exact List.prefix_append _ _
    · obtain ⟨m, ms, hm⟩ := List.exists_cons_of_ne_nil (cut_ne_nil tail ps)
      rw [hm] at h
      cases h
      rw [toChars_cons, toChars_cons, List.prefix_append_right_inj]
      exact ih hm

lemma Fits.of_isPrefix {p : Placed} {q rest : List Char} (h : Fits p rest) (hq : q <+: rest) :
    Fits p q := by
  obtain ⟨hg, c, body, hb, hs⟩ := h
  refine ⟨?_, c, body, hb, scan_of_isPrefix hs hq⟩
  rw [List.append_assoc]
  exact gap_of_isPrefix hg ((List.prefix_append_right_inj _).mpr hq)

/-- **Each part of a script is read alone as it is read in the script.** -/
theorem lexed_of_mem_statements {l s : Layout} (h : l.Lexed) (hs : s ∈ l.statements) :
    s.Lexed := by
  obtain ⟨ps, t⟩ := l
  rw [statements] at hs
  simp only at hs
  induction ps generalizing s with
  | nil =>
    obtain rfl := List.mem_singleton.mp hs
    exact h
  | cons p ps ih =>
    obtain ⟨hp, hps⟩ := lexed_cons_iff.mp h
    rw [cut] at hs
    split at hs
    · rcases List.mem_cons.mp hs with rfl | hs
      · exact lexed_nil_iff.mpr (by simpa using gap_of_isPrefix hp.gap (List.nil_prefix))
      · exact ih hps hs
    · obtain ⟨m, ms, hm⟩ := List.exists_cons_of_ne_nil (cut_ne_nil t ps)
      rw [hm] at hs
      rcases List.mem_cons.mp hs with rfl | hs
      · exact lexed_cons_iff.mpr
          ⟨hp.of_isPrefix (toChars_head_cut hm), ih hps (hm ▸ List.mem_cons_self)⟩
      · exact ih hps (hm ▸ List.mem_cons_of_mem _ hs)

/-- A semicolon that separates statements is one character. -/
lemma Fits.semicolon {p : Placed} {rest : List Char} (h : Fits p rest)
    (hp : p.lexeme.isSemicolon = true) : p.lexeme.chars = [';'] := by
  obtain ⟨-, c, body, hb, hs⟩ := h
  have hk : p.lexeme.kind = .semicolon := by simpa [Lexeme.isSemicolon] using hp
  rw [hk] at hs
  rcases scan_cases c (body ++ rest) with hc | rfl | rfl | ⟨rfl, tag, r, hr, ht⟩ | ⟨rfl, ht⟩ |
    ⟨hw, hc⟩ | hc
  · rw [scan_word hc] at hs; cases hs
  · rw [scan_quotedName] at hs; cases hs
  · rw [scan_string] at hs; cases hs
  · rw [hr] at hs ht
    rw [scan_dollar ht] at hs
    cases hs
  · rw [scan_lone_dollar ht] at hs; cases hs
  · rw [scan_number hw hc] at hs; cases hs
  · rw [scan_mark hc, Prod.mk.injEq, Prod.mk.injEq] at hs
    have hc' : c = ';' := by
      have := hs.1
      unfold markKind at this
      split_ifs at this
      assumption
    rw [hb, hc', ← hs.2.1]

/-- A script is its statements with semicolons between them. -/
lemma toChars_eq_intercalate {l : Layout} (h : l.Lexed) :
    l.toChars = [';'].intercalate (l.statements.map toChars) := by
  obtain ⟨ps, t⟩ := l
  rw [statements]
  simp only
  induction ps with
  | nil => simp [cut, toChars_nil]
  | cons p ps ih =>
    obtain ⟨hp, hps⟩ := lexed_cons_iff.mp h
    obtain ⟨m, ms, hm⟩ := List.exists_cons_of_ne_nil (cut_ne_nil t ps)
    have ih := ih hps
    rw [toChars_cons, ih, cut, hm]
    split
    · next hsemi =>
      rw [hp.semicolon hsemi]
      simp [toChars_nil, List.intercalate_cons_cons]
    · rcases ms with _ | ⟨m', ms⟩
      · simp [toChars_cons]
      · simp [toChars_cons, List.intercalate_cons_cons]

end Layout

/-! ### Statements by their lexemes -/

namespace Script

/-- The lexemes of a script from a semicolon to the next, around a part between them. -/
def statementAround (before part after : List Lexeme) : List Lexeme :=
  before.rtakeWhile (!·.isSemicolon) ++ part ++ after.takeWhile (!·.isSemicolon)

lemma mem_splitOnP_of_append {b s a : List Lexeme} (hs : ∀ x ∈ s, x.isSemicolon = false)
    (hb : ∀ x ∈ b.getLast?, x.isSemicolon = true) (ha : ∀ x ∈ a.head?, x.isSemicolon = true) :
    s ∈ (b ++ s ++ a).splitOnP isSemicolon := by
  have h : s ∈ (s ++ a).splitOnP isSemicolon := by
    rcases a with _ | ⟨x, a⟩
    · rw [List.append_nil, List.splitOnP_eq_singleton hs]
      exact List.mem_singleton_self s
    · rw [List.splitOnP_append_cons_of_forall_mem hs x (ha x rfl)]
      exact List.mem_cons_self
  rcases List.eq_nil_or_concat b with rfl | ⟨b, x, rfl⟩
  · exact h
  · have hx : x.isSemicolon = true := hb x (by simp)
    rw [List.concat_eq_append, List.append_assoc, List.append_assoc, List.singleton_append,
      List.splitOnP_append_cons _ _ hx]
    exact List.mem_append_right _ h

lemma exists_append_of_mem_splitOnP {xs s : List Lexeme} (h : s ∈ xs.splitOnP isSemicolon) :
    ∃ b a, xs = b ++ s ++ a ∧ (∀ x ∈ s, x.isSemicolon = false) ∧
      (∀ x ∈ b.getLast?, x.isSemicolon = true) ∧ ∀ x ∈ a.head?, x.isSemicolon = true := by
  induction hn : xs.length using Nat.strongRecOn generalizing xs with
  | _ n ih =>
    subst hn
    by_cases hall : ∀ x ∈ xs, x.isSemicolon = false
    · rw [List.splitOnP_eq_singleton hall, List.mem_singleton] at h
      exact ⟨[], [], by simp [h], h ▸ hall, by simp, by simp⟩
    -- the first semicolon ends the first statement
    have hrun : ∀ x ∈ xs.takeWhile (!·.isSemicolon), x.isSemicolon = false := fun x hx => by
      simpa using List.all_eq_true.mp List.all_takeWhile x hx
    rcases hd : xs.dropWhile (!·.isSemicolon) with _ | ⟨x, rest⟩
    · refine absurd (fun x hx => ?_) hall
      rw [← List.takeWhile_append_dropWhile (p := (!·.isSemicolon)) (l := xs), hd,
        List.append_nil] at hx
      exact hrun x hx
    have hx : x.isSemicolon = true := by
      have := List.head?_dropWhile_not (!·.isSemicolon) xs
      rw [hd] at this
      simpa using this
    have hxs : xs.takeWhile (!·.isSemicolon) ++ x :: rest = xs := by
      rw [← hd, List.takeWhile_append_dropWhile]
    rw [← hxs, List.splitOnP_append_cons_of_forall_mem hrun x hx] at h
    rcases List.mem_cons.mp h with rfl | h
    · exact ⟨[], x :: rest, by simpa using hxs.symm, hrun, by simp, by simpa using hx⟩
    · have hl : rest.length < xs.length := by rw [← hxs]; simp; omega
      obtain ⟨b, a, rfl, hs, hb, ha⟩ := ih _ hl h rfl
      refine ⟨xs.takeWhile (!·.isSemicolon) ++ x :: b, a, by simpa using hxs.symm, hs, ?_, ha⟩
      rw [List.getLast?_append, List.getLast?_cons]
      rcases hl : b.getLast? with _ | y
      · simpa using hx
      · simpa using hb y hl

lemma statementAround_mem {b c : List Lexeme} (hc : ∀ x ∈ c, x.isSemicolon = false)
    (a : List Lexeme) : statementAround b c a ∈ (b ++ c ++ a).splitOnP isSemicolon := by
  have hb : b.rdropWhile (!·.isSemicolon) ++ b.rtakeWhile (!·.isSemicolon) = b :=
    List.rdropWhile_append_rtakeWhile
  have ha := List.takeWhile_append_dropWhile (p := (!·.isSemicolon)) (l := a)
  have e : b ++ c ++ a = b.rdropWhile (!·.isSemicolon) ++ statementAround b c a ++
      a.dropWhile (!·.isSemicolon) := by
    rw [statementAround]
    simp only [← List.append_assoc, hb]
    rw [List.append_assoc (b ++ c), ha]
  rw [e]
  refine mem_splitOnP_of_append (fun x hx => ?_) (fun x hx => ?_) (fun x hx => ?_)
  · rw [statementAround, List.mem_append, List.mem_append] at hx
    rcases hx with (hx | hx) | hx
    · simpa using List.mem_rtakeWhile_imp hx
    · exact hc x hx
    · simpa using List.all_eq_true.mp List.all_takeWhile x hx
  · obtain ⟨hne, rfl⟩ := List.mem_getLast?_eq_getLast hx
    simpa using List.rdropWhile_last_not _ _ hne
  · have := List.head?_dropWhile_not (!·.isSemicolon) a
    rw [Option.mem_def.mp hx] at this
    simpa using this

lemma takeWhile_eq_nil_of_head? {p : Lexeme → Bool} {a : List Lexeme}
    (ha : ∀ x ∈ a.head?, ¬ p x = true) : a.takeWhile p = [] := by
  rcases a with _ | ⟨x, a⟩
  · rfl
  · exact List.takeWhile_cons_of_neg (ha x rfl)

lemma rtakeWhile_append {p : Lexeme → Bool} {b s : List Lexeme} (hs : ∀ x ∈ s, p x = true)
    (hb : ∀ x ∈ b.getLast?, ¬ p x = true) : (b ++ s).rtakeWhile p = s := by
  rw [List.rtakeWhile, List.reverse_append, List.takeWhile_append_of_pos (by simpa using hs),
    takeWhile_eq_nil_of_head? (by simpa using hb), List.append_nil, List.reverse_reverse]

lemma statementAround_eq {b p c q a : List Lexeme} (hs : ∀ x ∈ p ++ c ++ q, x.isSemicolon = false)
    (hb : ∀ x ∈ b.getLast?, x.isSemicolon = true) (ha : ∀ x ∈ a.head?, x.isSemicolon = true) :
    statementAround (b ++ p) c (q ++ a) = p ++ c ++ q := by
  have hp : ∀ x ∈ p, (!x.isSemicolon) = true := fun x hx => by simp [hs x (by simp [hx])]
  have hq : ∀ x ∈ q, (!x.isSemicolon) = true := fun x hx => by simp [hs x (by simp [hx])]
  rw [statementAround, rtakeWhile_append hp fun x hx => by simp [hb x hx],
    List.takeWhile_append_of_pos hq, takeWhile_eq_nil_of_head? fun x hx => by simp [ha x hx],
    List.append_nil]

/-! ### Statements as texts -/

lemma map_lexemes_statements (script : String) :
    (Layout.ofText script).statements.map Layout.lexemes =
      (Lexeme.ofText script).splitOnP isSemicolon :=
  Layout.map_lexemes_cut _ _

lemma mem_split_iff {script t : String} :
    t ∈ split script ↔ ∃ s ∈ (Layout.ofText script).statements,
      Text.trimChars s.toChars ≠ [] ∧ t = String.ofList (Text.trimChars s.toChars) := by
  simp only [split, splitChars, Layout.pieces_eq, List.map_map, List.mem_map, List.mem_filter,
    Bool.not_eq_true', List.isEmpty_eq_false_iff]
  constructor
  · rintro ⟨cs, ⟨⟨s, hs, rfl⟩, h0⟩, rfl⟩
    exact ⟨s, hs, h0, rfl⟩
  · rintro ⟨s, hs, h0, rfl⟩
    exact ⟨_, ⟨⟨s, hs, rfl⟩, h0⟩, rfl⟩

/-- What is read off the statements of a script is read off the texts between its semicolons, when
nothing is read off an empty text. -/
lemma flatMap_toList_split {α : Type} {f : List Char → List α} (hnil : f [] = [])
    (script : String) : (split script).flatMap (fun t => f t.toList) =
      (Layout.ofText script).statements.flatMap fun s => f (Text.trimChars s.toChars) := by
  have hfilter (ps : List (List Char)) : (ps.filter (!·.isEmpty)).flatMap f = ps.flatMap f := by
    induction ps with
    | nil => rfl
    | cons p ps ih =>
      rcases p with _ | ⟨c, cs⟩
      · rw [List.filter_cons_of_neg (by simp), ih, List.flatMap_cons, hnil, List.nil_append]
      · rw [List.filter_cons_of_pos (by simp), List.flatMap_cons, List.flatMap_cons, ih]
  rw [split, splitChars, Layout.pieces_eq, List.flatMap_map]
  simp only [String.toList_ofList]
  rw [hfilter, List.flatMap_map, List.flatMap_map]
  rfl

lemma alike_of_mem_statements {script : String} {s : Layout}
    (hs : s ∈ (Layout.ofText script).statements) :
    List.Forall₂ Alike (Lexeme.ofText (String.ofList (Text.trimChars s.toChars))) s.lexemes := by
  have h := Layout.lexemes_trimChars s.toChars
  rw [Layout.lexed_of_mem_statements (Layout.lexed_ofChars script.toList) hs] at h
  rwa [Lexeme.ofText, Layout.ofText, String.toList_ofList]

/-- **A statement of a script is read alone as some lexemes between semicolons of the script.** -/
theorem exists_of_mem_split {script t : String} (h : t ∈ split script) :
    ∃ xs ∈ (Lexeme.ofText script).splitOnP isSemicolon,
      List.Forall₂ Alike (Lexeme.ofText t) xs := by
  obtain ⟨s, hs, -, rfl⟩ := mem_split_iff.mp h
  rw [← map_lexemes_statements]
  exact ⟨s.lexemes, List.mem_map_of_mem hs, alike_of_mem_statements hs⟩

/-- **No lexeme between two semicolons is lost when a script is split.** -/
theorem mem_split_of_mem_splitOnP {script : String} {xs : List Lexeme}
    (h : xs ∈ (Lexeme.ofText script).splitOnP isSemicolon) :
    xs = [] ∨ ∃ t ∈ split script, List.Forall₂ Alike (Lexeme.ofText t) xs := by
  rw [← map_lexemes_statements, List.mem_map] at h
  obtain ⟨s, hs, rfl⟩ := h
  have ha := alike_of_mem_statements hs
  by_cases h0 : Text.trimChars s.toChars = []
  · have hn : Lexeme.ofText (String.ofList []) = [] := by
      rw [Lexeme.ofText, Layout.ofText, String.toList_ofList, Layout.ofChars_of_gap gap_nil]
      rfl
    rw [h0, hn] at ha
    exact .inl (List.forall₂_nil_left_iff.mp ha)
  · exact .inr ⟨_, mem_split_iff.mpr ⟨s, hs, h0, rfl⟩, ha⟩

end Script

end QueryGate
