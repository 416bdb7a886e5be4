import Mathlib.Data.List.Forall2
import Mathlib.Tactic.Common
import QueryGate.Proofs.WordRuns

/-!
Patterns that are looked for in a text. A pattern can match at a place in several ways, which are
tried in a fixed order; the first that succeeds is the match. A text is searched from left to right,
and the search goes on behind a match.
-/

namespace QueryGate

namespace Text

/-- A text begins with one run of word characters only. -/
lemma run_unique {run after run' after' : List Char} (hr : ∀ c ∈ run, isWordChar c = true)
    (ha : ∀ c ∈ after.head?, isWordChar c = false) (hr' : ∀ c ∈ run', isWordChar c = true)
    (ha' : ∀ c ∈ after'.head?, isWordChar c = false) (h : run ++ after = run' ++ after') :
    run = run' ∧ after = after' := by
  obtain ⟨htake, hdrop⟩ := run_append hr ha
  obtain ⟨htake', hdrop'⟩ := run_append hr' ha'
  rw [h] at htake hdrop
  exact ⟨htake.symm.trans htake', hdrop.symm.trans hdrop'⟩

end Text

inductive Pattern
  /-- Nothing at all. -/
  | empty
  /-- The beginning of the text. -/
  | start
  /-- The end of the text. -/
  | stop
  /-- A place where a word begins or ends. -/
  | boundary
  | one (p : Char → Bool)
  /-- As many characters as possible. -/
  | many (p : Char → Bool)
  /-- As few characters as possible. -/
  | few (p : Char → Bool)
  /-- What the pattern takes is kept. -/
  | group (x : Pattern)
  | seq (x y : Pattern)
  /-- One of two patterns, the first if possible. -/
  | alt (x y : Pattern)

namespace Pattern

/-- A place in a text, with the character before it, and what the last group took. -/
structure Place where
  before : Option Char
  rest : List Char
  group : List Char
  deriving DecidableEq, Repr

/-- The place behind some characters, in front of `rest`. -/
def Place.behind (p : Place) (cs rest : List Char) : Place :=
  { p with before := cs.getLast?.or p.before, rest := rest }

/-- The places behind no, one, two and more characters of a class, until another one comes. -/
def stops (f : Char → Bool) (before : Option Char) (group : List Char) : List Char → List Place
  | [] => [⟨before, [], group⟩]
  | c :: cs => ⟨before, c :: cs, group⟩ :: (if f c then stops f (some c) group cs else [])

/-- The places behind the matches of a pattern at a place, the preferred ones first. -/
def run : Pattern → Place → List Place
  | empty, p => [p]
  | start, p => if p.before = none then [p] else []
  | stop, p => if p.rest = [] then [p] else []
  | boundary, p =>
    if p.before.any Text.isWordChar = p.rest.head?.any Text.isWordChar then [] else [p]
  | one f, p =>
    match p.rest with
    | [] => []
    | c :: cs => if f c then [p.behind [c] cs] else []
  | many f, p => (stops f p.before p.group p.rest).reverse
  | few f, p => stops f p.before p.group p.rest
  | group x, p => (x.run p).map fun q =>
      { q with group := p.rest.take (p.rest.length - q.rest.length) }
  | seq x y, p => (x.run p).flatMap y.run
  | alt x y, p => x.run p ++ y.run p

/-- The place behind the match of a pattern at a place. -/
def first? (x : Pattern) (p : Place) : Option Place := (x.run p).head?

/-- Patterns one after another. -/
def all (xs : List Pattern) : Pattern := xs.foldr seq empty

/-- One of some patterns, the first that is possible. -/
def anyOf (xs : List Pattern) : Pattern := xs.foldr alt (one fun _ => false)

def literal (cs : List Char) : Pattern := all (cs.map fun c => one (· = c))

/-- A character that may be absent. -/
def optional (c : Char) : Pattern := alt (one (· = c)) empty

/-- What the group of a pattern takes where it matches first. -/
def captured? (x : Pattern) (before : Option Char) : List Char → Option (List Char)
  | [] => (x.first? ⟨before, [], []⟩).map Place.group
  | c :: cs =>
    match x.first? ⟨before, c :: cs, []⟩ with
    | some q => some q.group
    | none => captured? x (some c) cs

/-- What a pattern takes where it matches, one match after another. The first `skip` characters
belong to the match before. -/
def matchesFrom (x : Pattern) (before : Option Char) (skip : Nat) : List Char → List (List Char)
  | [] => []
  | c :: cs =>
    match skip with
    | skip + 1 => matchesFrom x (some c) skip cs
    | 0 =>
      match x.first? ⟨before, c :: cs, []⟩ with
      | some q =>
        (c :: cs).take (cs.length + 1 - q.rest.length) ::
          matchesFrom x (some c) (cs.length - q.rest.length) cs
      | none => matchesFrom x (some c) 0 cs

/-- All that is found of a pattern that takes at least one character. -/
def matchesIn (x : Pattern) (text : String) : List String :=
  (x.matchesFrom none 0 text.toList).map String.ofList

/-! ### Places behind matches -/

variable {p q r : Place} {x y : Pattern} {f : Char → Bool}

lemma behind_nil (p : Place) : p.behind [] p.rest = p := rfl

lemma getLast?_cons_or (c : Char) (cs : List Char) (b : Option Char) :
    (c :: cs).getLast?.or b = cs.getLast?.or (some c) := by
  rw [List.getLast?_cons]
  cases cs.getLast? <;> rfl

lemma behind_behind (p : Place) (as bs rest rest' : List Char) :
    (p.behind as rest).behind bs rest' = p.behind (as ++ bs) rest' := by
  simp [Place.behind, List.getLast?_append, Option.or_assoc]

lemma mem_run_seq : q ∈ (seq x y).run p ↔ ∃ r ∈ x.run p, q ∈ y.run r := List.mem_flatMap

lemma mem_run_alt : q ∈ (alt x y).run p ↔ q ∈ x.run p ∨ q ∈ y.run p := List.mem_append

lemma mem_run_stop : q ∈ stop.run p ↔ p.rest = [] ∧ q = p := by
  change q ∈ (if p.rest = [] then [p] else []) ↔ _
  split <;> simp_all

lemma mem_run_boundary : q ∈ boundary.run p ↔
    p.before.any Text.isWordChar ≠ p.rest.head?.any Text.isWordChar ∧ q = p := by
  change q ∈ (if p.before.any Text.isWordChar = p.rest.head?.any Text.isWordChar then []
    else [p]) ↔ _
  split <;> simp_all

lemma mem_run_all_cons {xs : List Pattern} :
    q ∈ (all (x :: xs)).run p ↔ ∃ r ∈ x.run p, q ∈ (all xs).run r := mem_run_seq

/-- A pattern that matches just the texts with a property, and keeps nothing of them. -/
def Takes (x : Pattern) (M : List Char → Prop) : Prop :=
  ∀ p q, q ∈ x.run p ↔ ∃ taken rest, p.rest = taken ++ rest ∧ M taken ∧ q = p.behind taken rest

variable {M N : List Char → Prop}

lemma takes_empty : empty.Takes (· = []) := by
  intro p q
  change q ∈ [p] ↔ _
  rw [List.mem_singleton]
  constructor
  · rintro rfl
    exact ⟨[], q.rest, rfl, rfl, rfl⟩
  · rintro ⟨_, rest, e, rfl, rfl⟩
    rw [← show p.rest = rest from e, behind_nil]

lemma takes_one : (one f).Takes fun cs => ∃ c, cs = [c] ∧ f c = true := by
  intro p q
  change q ∈ (match p.rest with
    | [] => []
    | c :: cs => if f c then [p.behind [c] cs] else []) ↔ _
  constructor
  · intro h
    rcases e : p.rest with _ | ⟨c, cs⟩
    · simp [e] at h
    · by_cases hc : f c = true
      · exact ⟨[c], cs, rfl, ⟨c, rfl, hc⟩, by simpa [e, hc] using h⟩
      · simp [e, hc] at h
  · rintro ⟨_, rest, e, ⟨c, rfl, hc⟩, rfl⟩
    rw [e]
    simp [hc]

lemma mem_stops {before : Option Char} {group cs : List Char} :
    q ∈ stops f before group cs ↔ ∃ taken rest, cs = taken ++ rest ∧
      (∀ c ∈ taken, f c = true) ∧ q = Place.behind ⟨before, cs, group⟩ taken rest := by
  induction cs generalizing before with
  | nil => simp [stops, Place.behind]
  | cons c cs ih =>
    have hbehind (taken rest : List Char) :
        Place.behind ⟨some c, cs, group⟩ taken rest =
          Place.behind ⟨before, c :: cs, group⟩ (c :: taken) rest := by
      simp only [Place.behind, getLast?_cons_or]
    rw [stops, List.mem_cons]
    constructor
    · rintro (rfl | h)
      · exact ⟨[], c :: cs, rfl, by simp, rfl⟩
      · split at h
        · next hc =>
          obtain ⟨taken, rest, rfl, hf, rfl⟩ := ih.mp h
          exact ⟨c :: taken, rest, rfl, List.forall_mem_cons.mpr ⟨hc, hf⟩, hbehind taken rest⟩
        · cases h
    · rintro ⟨taken, rest, e, hf, rfl⟩
      rcases taken with _ | ⟨d, taken⟩
      · exact .inl (by rw [← show c :: cs = rest from e]; rfl)
      · obtain ⟨rfl, rfl⟩ := List.cons_eq_cons.mp e
        obtain ⟨hd, hf⟩ := List.forall_mem_cons.mp hf
        rw [if_pos hd]
        exact .inr (ih.mpr ⟨taken, rest, rfl, hf, (hbehind taken rest).symm⟩)

lemma takes_few : (few f).Takes fun cs => ∀ c ∈ cs, f c = true := fun _ _ => mem_stops

lemma takes_many : (many f).Takes fun cs => ∀ c ∈ cs, f c = true := by
  intro p q
  change q ∈ (stops f p.before p.group p.rest).reverse ↔ _
  rw [List.mem_reverse]
  exact mem_stops

lemma Takes.seq (hx : x.Takes M) (hy : y.Takes N) :
    (seq x y).Takes fun cs => ∃ as bs, cs = as ++ bs ∧ M as ∧ N bs := by
  intro p q
  rw [mem_run_seq]
  constructor
  · rintro ⟨r, hr, hq⟩
    obtain ⟨as, mid, e, ha, rfl⟩ := (hx _ _).mp hr
    obtain ⟨bs, rest, e', hb, rfl⟩ := (hy _ _).mp hq
    obtain rfl : mid = bs ++ rest := e'
    exact ⟨as ++ bs, rest, by rw [e, List.append_assoc], ⟨as, bs, rfl, ha, hb⟩,
      behind_behind ..⟩
  · rintro ⟨_, rest, e, ⟨as, bs, rfl, ha, hb⟩, rfl⟩
    rw [List.append_assoc] at e
    exact ⟨p.behind as (bs ++ rest), (hx _ _).mpr ⟨as, bs ++ rest, e, ha, rfl⟩,
      (hy _ _).mpr ⟨bs, rest, rfl, hb, (behind_behind ..).symm⟩⟩

lemma Takes.alt (hx : x.Takes M) (hy : y.Takes N) : (alt x y).Takes fun cs => M cs ∨ N cs := by
  intro p q
  rw [mem_run_alt, hx, hy]
  constructor
  · rintro (⟨taken, rest, e, h, rfl⟩ | ⟨taken, rest, e, h, rfl⟩)
    · exact ⟨taken, rest, e, .inl h, rfl⟩
    · exact ⟨taken, rest, e, .inr h, rfl⟩
  · rintro ⟨taken, rest, e, h | h, rfl⟩
    · exact .inl ⟨taken, rest, e, h, rfl⟩
    · exact .inr ⟨taken, rest, e, h, rfl⟩

lemma Takes.congr (h : x.Takes M) (hMN : ∀ cs, M cs ↔ N cs) : x.Takes N := by
  obtain rfl : M = N := funext fun cs => propext (hMN cs)
  exact h

/-- A pattern that may match nothing. -/
lemma Takes.mem_run_self (h : x.Takes M) (hM : M []) : p ∈ x.run p :=
  (h p p).mpr ⟨[], p.rest, rfl, hM, rfl⟩

lemma takes_optional {c : Char} : (optional c).Takes fun cs => cs = [c] ∨ cs = [] :=
  (takes_one.alt takes_empty).congr (by simp)

/-- A row of single characters. -/
lemma takes_all_one {α : Type} {g : α → Char → Bool} (as : List α) :
    (all (as.map fun a => one (g a))).Takes (List.Forall₂ (fun a c => g a c = true) as) := by
  induction as with
  | nil => exact takes_empty.congr fun _ => List.forall₂_nil_left_iff.symm
  | cons a as ih =>
    refine (takes_one.seq ih).congr fun cs => ?_
    rw [List.forall₂_cons_left_iff]
    constructor
    · rintro ⟨_, bs, rfl, ⟨c, rfl, hc⟩, hb⟩
      exact ⟨c, bs, hc, hb, rfl⟩
    · rintro ⟨c, bs, hc, hb, rfl⟩
      exact ⟨[c], bs, rfl, ⟨c, rfl, hc⟩, hb⟩

lemma takes_literal (cs : List Char) : (literal cs).Takes (· = cs) := by
  have hsame : (fun c d : Char => decide (d = c) = true) = Eq := by
    ext c d
    rw [decide_eq_true_eq, eq_comm]
  refine (takes_all_one cs).congr fun ds => ?_
  rw [hsame, List.forall₂_eq_eq_eq, eq_comm]

lemma takes_anyOf {α : Type} {g : α → Pattern} {L : α → List Char → Prop}
    (h : ∀ a, (g a).Takes (L a)) (as : List α) :
    (anyOf (as.map g)).Takes fun cs => ∃ a ∈ as, L a cs := by
  induction as with
  | nil => exact takes_one.congr (by simp)
  | cons a as ih => exact ((h a).alt ih).congr (by simp)

lemma Takes.mem_run_group (h : x.Takes M) : q ∈ (group x).run p ↔ ∃ taken rest,
    p.rest = taken ++ rest ∧ M taken ∧ q = { p.behind taken rest with group := taken } := by
  have htaken (taken rest : List Char) :
      (taken ++ rest).take ((taken ++ rest).length - rest.length) = taken := by
    rw [List.length_append, Nat.add_sub_cancel, List.take_left]
  change q ∈ (x.run p).map (fun r =>
    { r with group := p.rest.take (p.rest.length - r.rest.length) }) ↔ _
  rw [List.mem_map]
  constructor
  · rintro ⟨r, hr, rfl⟩
    obtain ⟨taken, rest, e, hM, rfl⟩ := (h _ _).mp hr
    refine ⟨taken, rest, e, hM, ?_⟩
    simp only [Place.behind, e, htaken]
  · rintro ⟨taken, rest, e, hM, rfl⟩
    refine ⟨_, (h _ _).mpr ⟨taken, rest, e, hM, rfl⟩, ?_⟩
    simp only [Place.behind, e, htaken]

/-! ### The first match and the next ones -/

lemma first?_eq_none_iff : x.first? p = none ↔ ∀ q, q ∉ x.run p := by
  rw [first?, List.head?_eq_none_iff, List.eq_nil_iff_forall_not_mem]

/-- A match that is the only possible one is the first. -/
lemma first?_eq_some (hq : q ∈ x.run p) (h : ∀ r ∈ x.run p, r = q) : x.first? p = some q := by
  obtain ⟨r, hr⟩ := Option.ne_none_iff_exists'.mp fun hn => first?_eq_none_iff.mp hn q hq
  rw [hr, h r (List.mem_of_head? hr)]

lemma first?_literal {cs rest : List Char} (hp : p.rest = cs ++ rest) :
    (literal cs).first? p = some (p.behind cs rest) := by
  refine first?_eq_some ((takes_literal cs _ _).mpr ⟨cs, rest, hp, rfl, rfl⟩) fun r hr => ?_
  obtain ⟨_, rest', e, rfl, rfl⟩ := (takes_literal cs _ _).mp hr
  rw [List.append_cancel_left (e.symm.trans hp)]

lemma first?_seq {r : Place} (hx : x.first? p = some r) (hy : y.first? r = some q) :
    (seq x y).first? p = some q := by
  obtain ⟨rs, hrs⟩ := List.head?_eq_some_iff.mp hx
  obtain ⟨qs, hqs⟩ := List.head?_eq_some_iff.mp hy
  change ((x.run p).flatMap y.run).head? = some q
  rw [hrs, List.flatMap_cons, hqs]
  rfl

lemma getLast?_stops (b : Option Char) (group cs : List Char) : (stops f b group cs).getLast? =
    some (Place.behind ⟨b, cs, group⟩ (cs.takeWhile f) (cs.dropWhile f)) := by
  induction cs generalizing b with
  | nil => rfl
  | cons c cs ih =>
    by_cases hc : f c = true
    · rw [stops, if_pos hc, List.getLast?_cons, ih, List.takeWhile_cons_of_pos hc,
        List.dropWhile_cons_of_pos hc]
      simp only [Place.behind, getLast?_cons_or, Option.getD_some]
    · simp [stops, hc, Place.behind]

/-- As many characters as possible are taken first. -/
lemma first?_many : (many f).first? p =
    some (p.behind (p.rest.takeWhile f) (p.rest.dropWhile f)) := by
  change (stops f p.before p.group p.rest).reverse.head? = _
  rw [List.head?_reverse, getLast?_stops]

/-- A pattern that begins at the beginning of the text is looked for there only. -/
lemma captured?_start (x : Pattern) (cs : List Char) :
    (seq start x).captured? none cs = (x.first? ⟨none, cs, []⟩).map Place.group := by
  have hstart : (seq start x).first? ⟨none, cs, []⟩ = x.first? ⟨none, cs, []⟩ := by
    change ([Place.mk none cs []].flatMap x.run).head? = _
    rw [List.flatMap_singleton, first?]
  have hnone (c : Char) (ds : List Char) : (seq start x).first? ⟨some c, ds, []⟩ = none := rfl
  have hlater (c : Char) (ds : List Char) : (seq start x).captured? (some c) ds = none := by
    induction ds generalizing c with
    | nil => rfl
    | cons d ds ih =>
      rw [captured?, hnone]
      exact ih d
  rcases cs with _ | ⟨c, cs⟩
  · rw [captured?, hstart]
  · rw [captured?, hstart, hlater]
    cases x.first? ⟨none, c :: cs, []⟩ <;> rfl

lemma matchesFrom_skip (b : Option Char) (as bs : List Char) :
    x.matchesFrom b as.length (as ++ bs) = x.matchesFrom (as.getLast?.or b) 0 bs := by
  induction as generalizing b with
  | nil => rfl
  | cons a as ih =>
    rw [List.length_cons, List.cons_append, matchesFrom, ih, getLast?_cons_or]

lemma matchesFrom_of_none {b : Option Char} {c : Char} {cs : List Char}
    (h : x.first? ⟨b, c :: cs, []⟩ = none) :
    x.matchesFrom b 0 (c :: cs) = x.matchesFrom (some c) 0 cs := by
  rw [matchesFrom, h]

lemma matchesFrom_of_some {b : Option Char} {as bs : List Char} (hne : as ≠ [])
    (h : x.first? ⟨b, as ++ bs, []⟩ = some (Place.behind ⟨b, as ++ bs, []⟩ as bs)) :
    x.matchesFrom b 0 (as ++ bs) = as :: x.matchesFrom (as.getLast?.or b) 0 bs := by
  obtain ⟨c, cs, rfl⟩ := List.exists_cons_of_ne_nil hne
  have hrest : (cs ++ bs).length - bs.length = cs.length := by simp
  have htaken : (c :: (cs ++ bs)).take ((cs ++ bs).length + 1 - bs.length) = c :: cs := by
    rw [Nat.sub_add_comm (by simp), hrest, List.take_succ_cons, List.take_left]
  rw [List.cons_append] at h ⊢
  rw [matchesFrom, h]
  simp only [Place.behind, htaken, hrest, matchesFrom_skip, getLast?_cons_or]

/-! ### Whole words -/

/-- A pattern between two boundaries. -/
def wholeWord (x : Pattern) : Pattern := all [boundary, x, boundary]

/-- A pattern that matches texts of word characters. -/
structure TakesWords (x : Pattern) (M : List Char → Prop) : Prop where
  takes : x.Takes M
  ne_nil : ∀ cs, M cs → cs ≠ []
  word : ∀ cs, M cs → ∀ c ∈ cs, Text.isWordChar c = true

namespace TakesWords

/-- Between two boundaries such a pattern takes a whole run of word characters. -/
lemma mem_run_wholeWord (h : TakesWords x M) : q ∈ x.wholeWord.run p ↔
    p.before.any Text.isWordChar = false ∧ ∃ taken rest, p.rest = taken ++ rest ∧ M taken ∧
      rest.head?.any Text.isWordChar = false ∧ q = p.behind taken rest := by
  have hends {taken : List Char} (hM : M taken) (rest : List Char) :
      (taken ++ rest).head?.any Text.isWordChar = true ∧
        (taken.getLast?.or p.before).any Text.isWordChar = true := by
    have hword := h.word _ hM
    obtain ⟨c, cs, rfl⟩ := List.exists_cons_of_ne_nil (h.ne_nil _ hM)
    refine ⟨hword c List.mem_cons_self, ?_⟩
    obtain ⟨ds, d, e⟩ := (List.eq_nil_or_concat (c :: cs)).resolve_left (List.cons_ne_nil c cs)
    rw [e, List.concat_eq_append] at hword ⊢
    simpa using hword d (by simp)
  simp only [wholeWord, all, List.foldr_cons, List.foldr_nil, mem_run_seq, mem_run_boundary]
  constructor
  · rintro ⟨_, ⟨hbefore, rfl⟩, _, hr, _, ⟨hafter, rfl⟩, hq⟩
    obtain ⟨taken, rest, e, hM, rfl⟩ := (h.takes _ _).mp hr
    obtain ⟨hhead, hlast⟩ := hends hM rest
    rw [e, hhead] at hbefore
    simp only [Place.behind, hlast] at hafter
    exact ⟨by simpa using hbefore, taken, rest, e, hM, by simpa using hafter.symm,
      List.mem_singleton.mp hq⟩
  · rintro ⟨hbefore, taken, rest, e, hM, hafter, rfl⟩
    obtain ⟨hhead, hlast⟩ := hends hM rest
    refine ⟨p, ⟨by rw [e, hhead, hbefore]; decide, rfl⟩, p.behind taken rest,
      (h.takes _ _).mpr ⟨taken, rest, e, hM, rfl⟩, _, ⟨?_, rfl⟩, List.mem_singleton.mpr rfl⟩
    simp [Place.behind, hlast, hafter]

/-- Nothing is found where no run of word characters begins. -/
lemma first?_eq_none (h : TakesWords x M) (hp : p.before.any Text.isWordChar = true ∨
    p.rest.head?.any Text.isWordChar = false) : x.wholeWord.first? p = none := by
  refine first?_eq_none_iff.mpr fun q hq => ?_
  obtain ⟨hbefore, taken, rest, e, hM, -⟩ := h.mem_run_wholeWord.mp hq
  rcases hp with hp | hp
  · rw [hbefore] at hp
    cases hp
  · obtain ⟨c, cs, rfl⟩ := List.exists_cons_of_ne_nil (h.ne_nil _ hM)
    rw [e, List.cons_append, List.head?_cons, Option.any_some, h.word _ hM c (by simp)] at hp
    cases hp

/-- Nothing is found inside a run of word characters. -/
lemma matchesFrom_inside (h : TakesWords x M) {as : List Char}
    (has : ∀ c ∈ as, Text.isWordChar c = true) {b : Option Char}
    (hb : b.any Text.isWordChar = true) (bs : List Char) :
    x.wholeWord.matchesFrom b 0 (as ++ bs) = x.wholeWord.matchesFrom (as.getLast?.or b) 0 bs := by
  induction as generalizing b with
  | nil => rfl
  | cons a as ih =>
    obtain ⟨ha, has⟩ := List.forall_mem_cons.mp has
    rw [List.cons_append, matchesFrom_of_none (h.first?_eq_none (.inl hb)), ih has (b := some a) ha,
      getLast?_cons_or]

/-- The pattern takes a run of word characters as a whole or nothing of it. -/
lemma matchesFrom_run (h : TakesWords x M) [DecidablePred M] {run after : List Char}
    (hne : run ≠ []) (hrun : ∀ c ∈ run, Text.isWordChar c = true)
    (hafter : ∀ c ∈ after.head?, Text.isWordChar c = false) {b : Option Char}
    (hb : b.any Text.isWordChar = false) : x.wholeWord.matchesFrom b 0 (run ++ after) =
      [run].filter M ++ x.wholeWord.matchesFrom (run.getLast?.or b) 0 after := by
  have hwhole : ∀ r ∈ x.wholeWord.run ⟨b, run ++ after, []⟩,
      M run ∧ r = Place.behind ⟨b, run ++ after, []⟩ run after := by
    intro r hr
    obtain ⟨-, taken, rest, e, hM, hrest, rfl⟩ := h.mem_run_wholeWord.mp hr
    obtain ⟨rfl, rfl⟩ :=
      Text.run_unique hrun hafter (h.word _ hM) ((Option.any_eq_false ..).mp hrest) e
    exact ⟨hM, rfl⟩
  by_cases hM : M run
  · have hmem : Place.behind ⟨b, run ++ after, []⟩ run after ∈
        x.wholeWord.run ⟨b, run ++ after, []⟩ :=
      h.mem_run_wholeWord.mpr ⟨hb, run, after, rfl, hM, (Option.any_eq_false ..).mpr hafter, rfl⟩
    rw [matchesFrom_of_some hne (first?_eq_some hmem fun r hr => (hwhole r hr).2)]
    simp [hM]
  · obtain ⟨c, cs, rfl⟩ := List.exists_cons_of_ne_nil hne
    have hnone : x.wholeWord.first? ⟨b, c :: (cs ++ after), []⟩ = none :=
      first?_eq_none_iff.mpr fun r hr => hM (hwhole r hr).1
    obtain ⟨hc, hcs⟩ := List.forall_mem_cons.mp hrun
    rw [List.cons_append, matchesFrom_of_none hnone, h.matchesFrom_inside hcs (b := some c) hc,
      getLast?_cons_or]
    simp [hM]

/-- **A pattern between boundaries finds the whole words that it matches.** -/
theorem matchesFrom_eq_filter (h : TakesWords x M) [DecidablePred M] (cs : List Char)
    {b : Option Char} (hb : b.any Text.isWordChar = false ∨ cs.head?.any Text.isWordChar = false) :
    x.wholeWord.matchesFrom b 0 cs = (Text.wordRuns cs).filter M := by
  -- by the runs of the text and what stands between them; behind a run no word begins at once
  induction hn : cs.length using Nat.strongRecOn generalizing cs b with
  | _ n ih =>
    subst hn
    obtain ⟨run, after, rfl, hrun, hafter⟩ := Text.exists_run_append cs
    by_cases hne : run = []
    · subst hne
      rcases after with _ | ⟨c, after⟩
      · rw [List.nil_append, matchesFrom, Text.wordRuns, List.filter_nil]
      · have hc := hafter c rfl
        rw [List.nil_append, matchesFrom_of_none (h.first?_eq_none (.inr hc)),
          Text.wordRuns_cons_of_not hc]
        exact ih after.length (by simp) after (.inl hc) rfl
    · have hpos := List.length_pos_iff.mpr hne
      have hb' : b.any Text.isWordChar = false := by
        refine hb.resolve_right ?_
        obtain ⟨c, cs, rfl⟩ := List.exists_cons_of_ne_nil hne
        simpa using hrun c List.mem_cons_self
      rw [h.matchesFrom_run hne hrun hafter hb', Text.wordRuns_run hne hrun hafter,
        ih after.length (by rw [List.length_append]; omega) after
          (.inr ((Option.any_eq_false ..).mpr hafter)) rfl,
        List.filter_cons]
      split <;> simp_all

end TakesWords

end Pattern

end QueryGate
