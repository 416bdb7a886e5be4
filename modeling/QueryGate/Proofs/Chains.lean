import QueryGate.Proofs.Statements

/-!
Dotted chains. A chain is a row of names with dots between them that is as long as it can be; its
references are its names taken two by two. Reading a statement from left to right finds just these.
-/

namespace QueryGate

open Lexeme

/-- Names with dots between them. -/
inductive Chain : List Lexeme → List String → Prop
  | name {x : Lexeme} {n : String} : x.identifier? = some n → Chain [x] [n]
  | dot {x d : Lexeme} {n : String} {xs : List Lexeme} {ns : List String} :
      x.identifier? = some n → d.kind = .dot → Chain xs ns → Chain (x :: d :: xs) (n :: ns)

/-- Lexemes before a chain that would make it longer. -/
def EndsInLink (xs : List Lexeme) : Prop :=
  ∃ b x d, xs = b ++ [x, d] ∧ x.isName = true ∧ d.kind = .dot

/-- Lexemes after a chain that would make it longer. -/
def BeginsWithLink (xs : List Lexeme) : Prop :=
  ∃ d x a, xs = d :: x :: a ∧ d.kind = .dot ∧ x.isName = true

/-- Some lexemes in the middle of others are a chain that cannot be made longer. -/
structure MaximalChain (before xs after : List Lexeme) (names : List String) : Prop where
  chain : Chain xs names
  left : ¬ EndsInLink before
  right : ¬ BeginsWithLink after

/-- A place among lexemes where a chain stands, with the names of the chain. -/
structure Chain.Place where
  before : List Lexeme
  chain : List Lexeme
  after : List Lexeme
  names : List String

/-- A maximal chain of some lexemes stands at a place. -/
structure Chain.Place.IsIn (xs : List Lexeme) (p : Place) : Prop where
  split : xs = p.before ++ p.chain ++ p.after
  maximal : MaximalChain p.before p.chain p.after p.names

/-- The places of all maximal chains of some lexemes, from left to right. -/
structure Chain.Places (xs : List Lexeme) (places : List Place) : Prop where
  mem_iff : ∀ p, p ∈ places ↔ p.IsIn xs
  ordered : places.Pairwise fun p q => p.before.length + p.chain.length ≤ q.before.length

/-- The references of a chain of names: the first two, the next two, and so on. -/
def Reference.pairs : List String → List Reference
  | q :: c :: ns => ⟨q, c⟩ :: pairs ns
  | _ => []

/-! ### Links -/

namespace Lexeme

lemma isName_iff {x : Lexeme} : x.isName = true ↔ ∃ n, x.identifier? = some n := by
  rw [identifier?]
  split
  · next h => simp [h]
  · next h => simp [h]

lemma not_isName_of_dot {d : Lexeme} (hd : d.kind = .dot) : d.isName = false := by
  simp [isName, hd]

lemma not_isName_of_semicolon {x : Lexeme} (hx : x.isSemicolon = true) : x.isName = false := by
  have hk : x.kind = .semicolon := by simpa [isSemicolon] using hx
  simp [isName, hk]

lemma not_semicolon_of_isName {x : Lexeme} (hx : x.isName = true) : x.isSemicolon = false := by
  rcases h : x.isSemicolon
  · rfl
  · rw [not_isName_of_semicolon h] at hx
    cases hx

lemma not_semicolon_of_dot {d : Lexeme} (hd : d.kind = .dot) : d.isSemicolon = false := by
  simp [isSemicolon, hd]

end Lexeme

lemma EndsInLink.of_append {b xs : List Lexeme} (h : EndsInLink xs) : EndsInLink (b ++ xs) := by
  obtain ⟨b', x, d, rfl, hx, hd⟩ := h
  exact ⟨b ++ b', x, d, by simp, hx, hd⟩

lemma EndsInLink.getLast? {xs : List Lexeme} (h : EndsInLink xs) :
    ∃ d ∈ xs.getLast?, d.kind = .dot := by
  obtain ⟨b, x, d, rfl, -, hd⟩ := h
  exact ⟨d, by simp, hd⟩

lemma EndsInLink.two_le_length {xs : List Lexeme} (h : EndsInLink xs) : 2 ≤ xs.length := by
  obtain ⟨b, x, d, rfl, -⟩ := h
  simp

/-- A link at the end of two rows is in the second, unless that has at most one lexeme. -/
lemma EndsInLink.right {b xs : List Lexeme} (h : EndsInLink (b ++ xs)) :
    EndsInLink xs ∨ (xs = [] ∧ EndsInLink b) ∨
      ∃ d, xs = [d] ∧ d.kind = .dot ∧ ∃ x ∈ b.getLast?, x.isName = true := by
  rcases List.eq_nil_or_concat xs with rfl | ⟨ys, d', rfl⟩
  · exact .inr (.inl ⟨rfl, by simpa using h⟩)
  obtain ⟨b', x, d, e, hx, hd⟩ := h
  rw [List.concat_eq_append, ← List.append_assoc, List.append_cons b' x [d],
    List.append_singleton_inj] at e
  obtain ⟨e, rfl⟩ := e
  rcases List.eq_nil_or_concat ys with rfl | ⟨zs, x', rfl⟩
  · rw [List.append_nil] at e
    subst e
    exact .inr (.inr ⟨d', by simp, hd, x, by simp, hx⟩)
  · rw [List.concat_eq_append, ← List.append_assoc, List.append_singleton_inj] at e
    obtain ⟨-, rfl⟩ := e
    exact .inl ⟨zs, x', d', by simp, hx, hd⟩

lemma BeginsWithLink.of_isPrefix {xs ys : List Lexeme} (h : BeginsWithLink xs) (hp : xs <+: ys) :
    BeginsWithLink ys := by
  obtain ⟨t, rfl⟩ := hp
  obtain ⟨d, x, a, rfl, hd, hx⟩ := h
  exact ⟨d, x, a ++ t, rfl, hd, hx⟩

lemma BeginsWithLink.head? {xs : List Lexeme} (h : BeginsWithLink xs) :
    ∃ d ∈ xs.head?, d.kind = .dot := by
  obtain ⟨d, x, a, rfl, hd, -⟩ := h
  exact ⟨d, rfl, hd⟩

lemma BeginsWithLink.left {xs a : List Lexeme} (h : BeginsWithLink (xs ++ a)) :
    BeginsWithLink xs ∨ (xs = [] ∧ BeginsWithLink a) ∨
      ∃ d, xs = [d] ∧ d.kind = .dot ∧ ∃ x ∈ a.head?, x.isName = true := by
  rcases xs with _ | ⟨d', xs⟩
  · exact .inr (.inl ⟨rfl, h⟩)
  obtain ⟨d, x, a', e, hd, hx⟩ := h
  rcases xs with _ | ⟨x', xs⟩
  · rw [List.singleton_append, List.cons_eq_cons] at e
    obtain ⟨rfl, rfl⟩ := e
    exact .inr (.inr ⟨d', rfl, hd, x, rfl, hx⟩)
  · rw [List.cons_append, List.cons_append, List.cons_eq_cons, List.cons_eq_cons] at e
    obtain ⟨rfl, rfl, -⟩ := e
    exact .inl ⟨d', x', xs, rfl, hd, hx⟩

/-! ### Chains -/

namespace Chain

variable {xs : List Lexeme} {ns : List String}

lemma exists_cons (h : Chain xs ns) : ∃ x rest, xs = x :: rest ∧ x.isName = true := by
  cases h with
  | name hx => exact ⟨_, _, rfl, isName_iff.mpr ⟨_, hx⟩⟩
  | dot hx hd h => exact ⟨_, _, rfl, isName_iff.mpr ⟨_, hx⟩⟩

lemma isName_of_getLast? (h : Chain xs ns) : ∀ x ∈ xs.getLast?, x.isName = true := by
  induction h with
  | name hx => simpa using isName_iff.mpr ⟨_, hx⟩
  | dot hx hd h ih =>
    obtain ⟨y, ys, rfl, -⟩ := h.exists_cons
    simpa using ih

lemma not_semicolon (h : Chain xs ns) : ∀ x ∈ xs, x.isSemicolon = false := by
  induction h with
  | name hx => simpa using not_semicolon_of_isName (isName_iff.mpr ⟨_, hx⟩)
  | dot hx hd h ih =>
    have h1 := not_semicolon_of_isName (isName_iff.mpr ⟨_, hx⟩)
    simpa [h1, not_semicolon_of_dot hd] using ih

/-- A name begins a chain that goes on as far as it can. -/
lemma exists_of_isName {x : Lexeme} (hx : x.isName = true) (rest : List Lexeme) :
    ∃ ys ms after, x :: rest = ys ++ after ∧ Chain ys ms ∧ ¬ BeginsWithLink after := by
  induction hn : rest.length using Nat.strongRecOn generalizing x rest with
  | _ n ih =>
    subst hn
    obtain ⟨n, hn⟩ := isName_iff.mp hx
    by_cases hl : BeginsWithLink rest
    · obtain ⟨d, y, a, rfl, hd, hy⟩ := hl
      have hlength : a.length < (d :: y :: a).length := by
        rw [List.length_cons, List.length_cons]
        omega
      obtain ⟨ys, ms, after, e, hc, hr⟩ := ih _ hlength hy a rfl
      exact ⟨x :: d :: ys, n :: ms, after, by rw [e]; rfl, .dot hn hd hc, hr⟩
    · exact ⟨[x], [n], rest, rfl, .name hn, hl⟩

/-- What stands in a chain before one of its names links to that name. -/
lemma endsInLink {b c : List Lexeme} {y : Lexeme} (hy : y.isName = true) (hb : b ≠ [])
    (h : Chain xs ns) (e : xs = b ++ y :: c) : EndsInLink b := by
  induction h generalizing b with
  | name hx =>
    obtain ⟨z, b, rfl⟩ := List.exists_cons_of_ne_nil hb
    simp at e
  | @dot x d n xs ns hx hd h ih =>
    obtain ⟨z, b, rfl⟩ := List.exists_cons_of_ne_nil hb
    rw [List.cons_append, List.cons_eq_cons] at e
    obtain ⟨rfl, e⟩ := e
    rcases b with _ | ⟨z, b⟩
    · -- the dot of the chain is no name
      rw [List.nil_append, List.cons_eq_cons] at e
      obtain ⟨rfl, -⟩ := e
      rw [not_isName_of_dot hd] at hy
      cases hy
    · rw [List.cons_append, List.cons_eq_cons] at e
      obtain ⟨rfl, e⟩ := e
      rcases b with _ | ⟨w, b⟩
      · exact ⟨[], x, d, rfl, isName_iff.mpr ⟨n, hx⟩, hd⟩
      · exact (ih (by simp) e).of_append (b := [x, d])

/-- Two chains that begin a text and cannot go on in it are the same. -/
lemma eq_of_append {ys a b : List Lexeme} {ms : List String} (h : Chain xs ns) (h' : Chain ys ms)
    (ha : ¬ BeginsWithLink a) (hb : ¬ BeginsWithLink b) (e : xs ++ a = ys ++ b) :
    xs = ys ∧ ns = ms := by
  induction h generalizing ys ms with
  | @name x n hx =>
    cases h' with
    | name hy =>
      obtain ⟨rfl, -⟩ := List.cons_eq_cons.mp e
      rw [hx, Option.some.injEq] at hy
      exact ⟨rfl, by rw [hy]⟩
    | dot hy hd h' =>
      obtain ⟨z, zs, rfl, hz⟩ := h'.exists_cons
      obtain ⟨-, rfl⟩ := List.cons_eq_cons.mp e
      exact (ha ⟨_, z, zs ++ b, rfl, hd, hz⟩).elim
  | @dot x d n xs ns hx hd h ih =>
    cases h' with
    | name hy =>
      obtain ⟨z, zs, rfl, hz⟩ := h.exists_cons
      obtain ⟨-, rfl⟩ := List.cons_eq_cons.mp e
      exact (hb ⟨d, z, zs ++ a, rfl, hd, hz⟩).elim
    | dot hy hd' h' =>
      simp only [List.cons_append, List.cons.injEq] at e
      obtain ⟨rfl, rfl, e⟩ := e
      obtain ⟨rfl, rfl⟩ := ih h' e
      rw [hx, Option.some.injEq] at hy
      exact ⟨rfl, by rw [hy]⟩

end Chain

/-! ### Places -/

/-- No chain goes on from some lexemes to those behind them. -/
structure Apart (xs after : List Lexeme) : Prop where
  left : ¬ EndsInLink xs
  right : ∀ x ∈ xs.getLast?, x.isName = true → ¬ BeginsWithLink after

lemma Apart.of_not_isName {x : Lexeme} (hx : x.isName = false) (rest : List Lexeme) :
    Apart [x] rest where
  left h := by simpa using h.two_le_length
  right y hy hn := by
    obtain rfl : x = y := by simpa using hy
    rw [hx] at hn
    cases hn

lemma Apart.of_chain {xs after : List Lexeme} {ns : List String} (h : Chain xs ns)
    (ha : ¬ BeginsWithLink after) : Apart xs after where
  left hl := by
    obtain ⟨d, hd, hk⟩ := hl.getLast?
    have hn := h.isName_of_getLast? d hd
    rw [not_isName_of_dot hk] at hn
    cases hn
  right _ _ _ := ha

namespace MaximalChain

variable {b xs a : List Lexeme} {ns : List String}

lemma of_append {u : List Lexeme} (h : MaximalChain (u ++ b) xs a ns) : MaximalChain b xs a ns :=
  ⟨h.chain, fun hb => h.left hb.of_append, h.right⟩

lemma append {u : List Lexeme} (h : MaximalChain b xs a ns) (hu : Apart u (b ++ xs ++ a)) :
    MaximalChain (u ++ b) xs a ns := by
  refine ⟨h.chain, fun hl => ?_, h.right⟩
  rcases hl.right with hb | ⟨-, hu'⟩ | ⟨d, rfl, hd, x, hx, hn⟩
  · exact h.left hb
  · exact hu.left hu'
  · obtain ⟨y, ys, rfl, hy⟩ := h.chain.exists_cons
    exact hu.right x hx hn ⟨d, y, ys ++ a, rfl, hd, hy⟩

end MaximalChain

namespace Chain

/-- A place seen from further left. -/
def Place.behind (u : List Lexeme) (p : Place) : Place := { p with before := u ++ p.before }

lemma Place.IsIn.behind {u rest : List Lexeme} {p : Place} (h : p.IsIn rest) (hu : Apart u rest) :
    (p.behind u).IsIn (u ++ rest) where
  split := by
    rw [h.split]
    simp [Place.behind]
  maximal := h.maximal.append (h.split ▸ hu)

/-- A maximal chain that begins behind some lexemes is one of what follows them. -/
lemma Place.IsIn.exists_behind {u v rest : List Lexeme} {p : Place} (h : p.IsIn (u ++ rest))
    (hb : p.before = u ++ v) : ∃ q : Place, q.IsIn rest ∧ p = q.behind u := by
  have hrest : rest = v ++ p.chain ++ p.after := by
    have hsplit := h.split
    rw [hb] at hsplit
    simpa using hsplit
  have hmax := h.maximal
  rw [hb] at hmax
  refine ⟨⟨v, p.chain, p.after, p.names⟩, ⟨hrest, hmax.of_append⟩, ?_⟩
  rw [Place.behind, ← hb]

lemma Places.nil : Places [] [] where
  mem_iff p := by
    refine iff_of_false List.not_mem_nil fun h => ?_
    obtain ⟨x, rest, hc, -⟩ := h.maximal.chain.exists_cons
    simpa [hc] using h.split
  ordered := .nil

lemma ordered_behind {u : List Lexeme} {places : List Place}
    (h : places.Pairwise fun p q => p.before.length + p.chain.length ≤ q.before.length) :
    (places.map (Place.behind u)).Pairwise
      fun p q => p.before.length + p.chain.length ≤ q.before.length := by
  refine List.pairwise_map.mpr (h.imp fun {p q} hpq => ?_)
  simp only [Place.behind, List.length_append]
  omega

/-- A lexeme that is no name belongs to no chain at the beginning of a text. -/
lemma Places.cons {x : Lexeme} {rest : List Lexeme} {places : List Place}
    (hx : x.isName = false) (h : Places rest places) :
    Places (x :: rest) (places.map (Place.behind [x])) where
  mem_iff p := by
    have hapart := Apart.of_not_isName hx rest
    constructor
    · intro hp
      obtain ⟨q, hq, rfl⟩ := List.mem_map.mp hp
      exact ((h.mem_iff q).mp hq).behind hapart
    · intro hp
      obtain ⟨y, ys, hc, hy⟩ := hp.maximal.chain.exists_cons
      have hsplit := hp.split
      rcases hb : p.before with _ | ⟨z, b⟩
      · rw [hb, hc] at hsplit
        obtain ⟨rfl, -⟩ := List.cons_eq_cons.mp hsplit
        rw [hx] at hy
        cases hy
      · rw [hb] at hsplit
        obtain ⟨rfl, -⟩ := List.cons_eq_cons.mp hsplit
        obtain ⟨q, hq, rfl⟩ := Place.IsIn.exists_behind (u := [x]) hp hb
        exact List.mem_map_of_mem ((h.mem_iff q).mpr hq)
  ordered := ordered_behind h.ordered

/-- A chain that begins a text is its first maximal chain; the others follow it. -/
lemma Places.append {xs rest : List Lexeme} {ns : List String} {places : List Place}
    (hc : Chain xs ns) (hlink : ¬ BeginsWithLink rest) (h : Places rest places) :
    Places (xs ++ rest) (⟨[], xs, rest, ns⟩ :: places.map (Place.behind xs)) where
  mem_iff p := by
    have hapart := Apart.of_chain hc hlink
    constructor
    · intro hp
      rcases List.mem_cons.mp hp with rfl | hp
      · exact ⟨rfl, hc, fun hl => by simpa using hl.two_le_length, hlink⟩
      · obtain ⟨q, hq, rfl⟩ := List.mem_map.mp hp
        exact ((h.mem_iff q).mp hq).behind hapart
    · intro hp
      have hlater {v : List Lexeme} (hb : p.before = xs ++ v) :
          p ∈ places.map (Place.behind xs) := by
        obtain ⟨q, hq, rfl⟩ := hp.exists_behind hb
        exact List.mem_map_of_mem ((h.mem_iff q).mpr hq)
      have hsplit := hp.split
      rw [List.append_assoc] at hsplit
      rcases List.append_eq_append_iff.mp hsplit with ⟨v, hb, -⟩ | ⟨v, hxs, hv⟩
      · exact List.mem_cons_of_mem _ (hlater hb)
      · rcases v with _ | ⟨y, v⟩
        · exact List.mem_cons_of_mem _ (hlater (v := []) (by simpa using hxs.symm))
        obtain ⟨z, zs, hchain, hz⟩ := hp.maximal.chain.exists_cons
        rw [hchain] at hv
        obtain ⟨rfl, -⟩ := List.cons_eq_cons.mp hv
        by_cases hb : p.before = []
        · -- both chains begin the text, and neither can be made longer
          have he : xs ++ rest = p.chain ++ p.after := by rw [hp.split, hb, List.nil_append]
          obtain ⟨h1, h2⟩ := hc.eq_of_append hp.maximal.chain hlink hp.maximal.right he
          have h3 : rest = p.after := by rwa [h1, List.append_cancel_left_eq] at he
          exact List.mem_cons.mpr (.inl (by rw [h1, h2, h3, ← hb]))
        · exact (hp.maximal.left (hc.endsInLink hz hb hxs)).elim
  ordered := by
    refine List.pairwise_cons.mpr ⟨fun q hq => ?_, ordered_behind h.ordered⟩
    obtain ⟨q, -, rfl⟩ := List.mem_map.mp hq
    simp [Place.behind]

end Chain

/-! ### References -/

namespace Reference

lemma ofLexemes_of_not_isName {x : Lexeme} (hx : x.isName = false) (xs : List Lexeme) :
    ofLexemes (x :: xs) = ofLexemes xs := by
  refine ofLexemes_skip fun d b ys q c _ _ ha _ => ?_
  rw [isName_iff.mpr ⟨q, ha⟩] at hx
  cases hx

lemma ofLexemes_of_not_link {x : Lexeme} {xs : List Lexeme} (h : ¬ BeginsWithLink xs) :
    ofLexemes (x :: xs) = ofLexemes xs :=
  ofLexemes_skip fun d b ys _ c e hd _ hb => h ⟨d, b, ys, e, hd, isName_iff.mpr ⟨c, hb⟩⟩

lemma ofLexemes_chain {xs after : List Lexeme} {ns : List String} (h : Chain xs ns)
    (ha : ¬ BeginsWithLink after) :
    ofLexemes (xs ++ after) = pairs ns ++ ofLexemes after := by
  induction hn : xs.length using Nat.strongRecOn generalizing xs ns with
  | _ n ih =>
    subst hn
    cases h with
    | name hx => exact ofLexemes_of_not_link ha
    | dot hx hd h =>
      cases h with
      | name hy => exact ofLexemes_pair hd hx hy after
      | @dot y d' m zs ms hy hd' h =>
        -- the dot after a pair is passed over, and the chain begins anew behind it
        have hz := ih _ (by simp; omega) h rfl
        rw [List.cons_append, List.cons_append, List.cons_append, ofLexemes_pair hd hx hy,
          List.cons_append, ofLexemes_of_not_isName (not_isName_of_dot hd'), hz]
        rfl

/-- **The references of some lexemes are the pairs of their maximal chains, one chain after
another.** -/
theorem exists_places (xs : List Lexeme) : ∃ places, Chain.Places xs places ∧
    ofLexemes xs = places.flatMap fun p => pairs p.names := by
  induction hn : xs.length using Nat.strongRecOn generalizing xs with
  | _ n ih =>
    subst hn
    rcases xs with _ | ⟨x, rest⟩
    · exact ⟨[], .nil, rfl⟩
    by_cases hx : x.isName = true
    · obtain ⟨zs, ms, rest', e, hc, hlink⟩ := Chain.exists_of_isName hx rest
      have hlen : rest'.length < (x :: rest).length := by
        obtain ⟨z, zs', rfl, -⟩ := hc.exists_cons
        rw [e, List.length_append, List.length_cons]
        omega
      obtain ⟨places, hp, hrefs⟩ := ih _ hlen rest' rfl
      refine ⟨_, e ▸ hp.append hc hlink, ?_⟩
      rw [e, ofLexemes_chain hc hlink, hrefs, List.flatMap_cons, List.flatMap_map]
      rfl
    · have hx' := Bool.eq_false_iff.mpr hx
      obtain ⟨places, hp, hrefs⟩ := ih _ (by simp) rest rfl
      refine ⟨_, hp.cons hx', ?_⟩
      rw [ofLexemes_of_not_isName hx', hrefs, List.flatMap_map]
      rfl

lemma mem_of_maximalChain {before xs after : List Lexeme} {ns : List String}
    (h : MaximalChain before xs after ns) {r : Reference} (hr : r ∈ pairs ns) :
    r ∈ ofLexemes (before ++ xs ++ after) := by
  obtain ⟨places, hp, hrefs⟩ := exists_places (before ++ xs ++ after)
  rw [hrefs, List.mem_flatMap]
  exact ⟨⟨before, xs, after, ns⟩, (hp.mem_iff _).mpr ⟨rfl, h⟩, hr⟩

lemma exists_maximalChain {xs : List Lexeme} {r : Reference} (hr : r ∈ ofLexemes xs) :
    ∃ before ys after ns, xs = before ++ ys ++ after ∧ MaximalChain before ys after ns ∧
      r ∈ pairs ns := by
  obtain ⟨places, hp, hrefs⟩ := exists_places xs
  rw [hrefs, List.mem_flatMap] at hr
  obtain ⟨p, hmem, hr⟩ := hr
  have hin := (hp.mem_iff p).mp hmem
  exact ⟨p.before, p.chain, p.after, p.names, hin.split, hin.maximal, hr⟩

end Reference

end QueryGate
