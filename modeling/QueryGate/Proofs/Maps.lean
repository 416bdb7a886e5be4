import Mathlib.Data.List.Induction
import Mathlib.Data.List.Nodup
import Mathlib.Tactic.Common
import QueryGate.OrderedMap

/-!
Maps in order of arrival, by what they hold under a key and by their entries.
-/

namespace QueryGate.OrderedMap

variable {κ α β : Type}

lemma eq_of_entries {m n : OrderedMap κ α} (h : m.entries = n.entries) : m = n := by
  obtain ⟨es, hm⟩ := m
  obtain ⟨fs, hn⟩ := n
  cases h
  rfl

variable [DecidableEq κ]

lemma lookup_cons_eq (k l : κ) (b : α) (es : List (κ × α)) :
    ((l, b) :: es).lookup k = if k = l then some b else es.lookup k := by
  rw [List.lookup_cons]
  by_cases h : k = l
  · simp [h]
  · rw [if_neg h, beq_eq_false_iff_ne.mpr h]

lemma lookup_eq_some_iff {es : List (κ × α)} (h : (es.map Prod.fst).Nodup) {k : κ} {a : α} :
    es.lookup k = some a ↔ (k, a) ∈ es := by
  induction es with
  | nil => simp
  | cons e es ih =>
    obtain ⟨k', a'⟩ := e
    rw [List.map_cons, List.nodup_cons] at h
    rw [lookup_cons_eq, List.mem_cons, Prod.mk.injEq]
    by_cases hk : k = k'
    · subst hk
      have hnot : (k, a) ∉ es := fun hm => h.1 (List.mem_map.mpr ⟨_, hm, rfl⟩)
      simp [hnot, eq_comm]
    · simp [hk, ih h.2]

lemma get?_eq_some_iff {m : OrderedMap κ α} {k : κ} {a : α} :
    m.get? k = some a ↔ (k, a) ∈ m.entries :=
  lookup_eq_some_iff m.keys_nodup

lemma get?_eq_none_iff {m : OrderedMap κ α} {k : κ} : m.get? k = none ↔ k ∉ m.keys := by
  rw [get?, keys, List.lookup_eq_none_iff, List.mem_map]
  constructor
  · rintro h ⟨e, he, rfl⟩
    simpa using h e he
  · intro h e he
    rw [bne_iff_ne]
    rintro rfl
    exact h ⟨e, he, rfl⟩

lemma contains_eq_true_iff {m : OrderedMap κ α} {k : κ} : m.contains k = true ↔ k ∈ m.keys := by
  rw [contains, Option.isSome_iff_ne_none, ne_eq, get?_eq_none_iff, not_not]

lemma get?_empty (k : κ) : (empty : OrderedMap κ α).get? k = none := rfl

/-- Two maps hold the same just when their entries are the same up to order. -/
lemma perm_entries_iff {m n : OrderedMap κ α} :
    m.entries.Perm n.entries ↔ ∀ k, m.get? k = n.get? k := by
  have hnodup (l : OrderedMap κ α) : l.entries.Nodup := List.Nodup.of_map _ l.keys_nodup
  rw [List.perm_ext_iff_of_nodup (hnodup m) (hnodup n)]
  constructor
  · intro h k
    refine Option.ext fun a => ?_
    rw [get?_eq_some_iff, get?_eq_some_iff, h]
  · rintro h ⟨k, a⟩
    rw [← get?_eq_some_iff, ← get?_eq_some_iff, h]

lemma eq_empty_of_get? {m : OrderedMap κ α} (h : ∀ k, m.get? k = none) : m = empty :=
  eq_of_entries (perm_entries_iff (n := empty).mpr h).eq_nil

/-! ### Writing -/

lemma lookup_put (k k' : κ) (a : α) (es : List (κ × α)) :
    (put k a es).lookup k' = if k' = k then some a else es.lookup k' := by
  induction es with
  | nil => rw [put, lookup_cons_eq]
  | cons e es ih =>
    obtain ⟨l, b⟩ := e
    rw [put]
    by_cases hl : l = k
    · subst hl
      rw [if_pos rfl, lookup_cons_eq, lookup_cons_eq]
      split <;> rfl
    · rw [if_neg hl, lookup_cons_eq, lookup_cons_eq, ih]
      by_cases hk : k' = l
      · subst hk
        rw [if_pos rfl, if_neg hl, if_pos rfl]
      · rw [if_neg hk, if_neg hk]

lemma get?_insert (m : OrderedMap κ α) (k k' : κ) (a : α) :
    (m.insert k a).get? k' = if k' = k then some a else m.get? k' :=
  lookup_put k k' a m.entries

lemma get?_erase (m : OrderedMap κ α) (k k' : κ) :
    (m.erase k).get? k' = if k' = k then none else m.get? k' := by
  refine Option.ext fun a => ?_
  rw [get?_eq_some_iff, erase, List.mem_filter]
  split
  · next h => simp [h]
  · next h => simp [h, get?_eq_some_iff]

lemma erase_of_get?_eq_none {m : OrderedMap κ α} {k : κ} (h : m.get? k = none) : m.erase k = m := by
  refine eq_of_entries (List.filter_eq_self.mpr fun e he => ?_)
  rw [decide_eq_true_eq]
  rintro rfl
  exact get?_eq_none_iff.mp h (List.mem_map_of_mem he)

lemma put_of_not_mem {k : κ} {es : List (κ × α)} (h : k ∉ es.map Prod.fst) (a : α) :
    put k a es = es ++ [(k, a)] := by
  induction es with
  | nil => rfl
  | cons e es ih =>
    rw [List.map_cons, List.mem_cons, not_or] at h
    rw [put, if_neg (Ne.symm h.1), ih h.2]
    rfl

/-! ### Maps from lists -/

lemma entries_foldl_insert (es : List (κ × α)) (m : OrderedMap κ α)
    (h : ((m.entries ++ es).map Prod.fst).Nodup) :
    (es.foldl (fun m e => m.insert e.1 e.2) m).entries = m.entries ++ es := by
  induction es generalizing m with
  | nil => simp
  | cons e es ih =>
    have hnot : e.1 ∉ m.entries.map Prod.fst := by
      rw [List.map_append, List.map_cons, List.nodup_append] at h
      exact fun hm => h.2.2 _ hm _ List.mem_cons_self rfl
    have hput : (m.insert e.1 e.2).entries = m.entries ++ [e] := put_of_not_mem hnot e.2
    rw [List.foldl_cons, ih, hput, List.append_assoc, List.singleton_append]
    rwa [hput, List.append_assoc, List.singleton_append]

lemma entries_ofList {es : List (κ × α)} (h : (es.map Prod.fst).Nodup) :
    (ofList es).entries = es :=
  entries_foldl_insert es empty h

/-- A map is the map from its own entries. -/
lemma ofList_entries (m : OrderedMap κ α) : ofList m.entries = m :=
  eq_of_entries (entries_ofList m.keys_nodup)

lemma mem_of_mem_put {k : κ} {a : α} {e : κ × α} {es : List (κ × α)} (h : e ∈ put k a es) :
    e = (k, a) ∨ e ∈ es := by
  induction es with
  | nil => exact .inl (List.mem_singleton.mp h)
  | cons f es ih =>
    rw [put] at h
    split at h
    · rcases List.mem_cons.mp h with h | h
      · exact .inl h
      · exact .inr (List.mem_cons_of_mem _ h)
    · rcases List.mem_cons.mp h with rfl | h
      · exact .inr List.mem_cons_self
      · exact (ih h).imp_right (List.mem_cons_of_mem _)

lemma mem_of_mem_foldl_insert {e : κ × α} (es : List (κ × α)) (m : OrderedMap κ α)
    (h : e ∈ (es.foldl (fun m e => m.insert e.1 e.2) m).entries) : e ∈ m.entries ∨ e ∈ es := by
  induction es generalizing m with
  | nil => exact .inl h
  | cons f es ih =>
    rcases ih _ h with h | h
    · rcases mem_of_mem_put h with rfl | h
      · exact .inr List.mem_cons_self
      · exact .inl h
    · exact .inr (List.mem_cons_of_mem _ h)

lemma mem_of_mem_ofList {e : κ × α} {es : List (κ × α)} (h : e ∈ (ofList es).entries) :
    e ∈ es := by
  rcases mem_of_mem_foldl_insert es empty h with h | h
  · cases h
  · exact h

lemma ofList_concat (es : List (κ × α)) (e : κ × α) :
    ofList (es ++ [e]) = (ofList es).insert e.1 e.2 := by
  rw [ofList, List.foldl_append]
  rfl

/-- What comes again is not kept again. -/
lemma eraseDups_concat (ks : List κ) (k : κ) : (ks ++ [k]).eraseDups =
    if k ∈ ks.eraseDups then ks.eraseDups else ks.eraseDups ++ [k] := by
  rw [List.eraseDups_append]
  by_cases hk : k ∈ ks
  · simp [List.removeAll, hk]
  · simp [List.removeAll, hk, List.eraseDups_cons]

/-- A key has its place from its first entry on. -/
lemma keys_ofList (es : List (κ × α)) : (ofList es).keys = (es.map Prod.fst).eraseDups := by
  induction es using List.reverseRecOn with
  | nil => rfl
  | append_singleton es e ih =>
    have hput : (ofList (es ++ [e])).keys = (put e.1 e.2 (ofList es).entries).map Prod.fst := by
      rw [ofList_concat]
      rfl
    have hkeys : (ofList es).entries.map Prod.fst = (es.map Prod.fst).eraseDups := ih
    rw [hput, map_fst_put, hkeys, List.map_append, List.map_singleton, eraseDups_concat]

/-- Of several entries under one key the last counts. -/
lemma get?_ofList (es : List (κ × α)) (k : κ) : (ofList es).get? k = es.reverse.lookup k := by
  induction es using List.reverseRecOn with
  | nil => rfl
  | append_singleton es e ih =>
    rw [ofList_concat, get?_insert, List.reverse_append, List.reverse_singleton,
      List.singleton_append, lookup_cons_eq, ih]

lemma lookup_eq_head? (es : List (κ × α)) (k : κ) :
    es.lookup k = (es.filter (·.1 = k)).head?.map Prod.snd := by
  induction es with
  | nil => rfl
  | cons e es ih =>
    rw [lookup_cons_eq, List.filter_cons, ih]
    by_cases he : e.1 = k
    · simp [he]
    · simp [he, Ne.symm he]

lemma get?_ofList_eq_getLast? (es : List (κ × α)) (k : κ) :
    (ofList es).get? k = (es.filter (·.1 = k)).getLast?.map Prod.snd := by
  rw [get?_ofList, lookup_eq_head?, List.filter_reverse, List.head?_reverse]

lemma mem_keys_ofList {es : List (κ × α)} {k : κ} :
    k ∈ (ofList es).keys ↔ k ∈ es.map Prod.fst := by
  rw [keys_ofList, List.mem_eraseDups]

lemma filter_put_of_false {p : κ → Bool} {k : κ} (h : p k = false) (a : α) (es : List (κ × α)) :
    (put k a es).filter (p ·.1) = es.filter (p ·.1) := by
  induction es with
  | nil => simp [put, h]
  | cons e es ih =>
    rw [put]
    split
    · next he => simp [he, h]
    · rw [List.filter_cons, List.filter_cons, ih]

/-- What is chosen of a map is what is chosen of the list that it is made from, when the chosen keys
do not come again. -/
lemma filter_entries_ofList {p : κ → Bool} {es : List (κ × α)}
    (h : ((es.filter (p ·.1)).map Prod.fst).Nodup) :
    (ofList es).entries.filter (p ·.1) = es.filter (p ·.1) := by
  induction es using List.reverseRecOn with
  | nil => rfl
  | append_singleton es e ih =>
    rw [List.filter_append, List.map_append, List.nodup_append] at h
    have hinsert : ((ofList es).insert e.1 e.2).entries = put e.1 e.2 (ofList es).entries := rfl
    rw [ofList_concat, hinsert, List.filter_append]
    rcases hp : p e.1
    · rw [filter_put_of_false hp, ih h.1]
      simp [hp]
    · have hnew : e.1 ∉ (ofList es).entries.map Prod.fst := by
        intro hmem
        obtain ⟨f, hf, he⟩ := List.mem_map.mp (mem_keys_ofList.mp hmem)
        refine h.2.2 e.1 ?_ e.1 (by simp [hp]) rfl
        exact List.mem_map.mpr ⟨f, List.mem_filter.mpr ⟨hf, by rw [he, hp]⟩, he⟩
      rw [put_of_not_mem hnew, List.filter_append, ih h.1]

/-! ### Maps from their keys -/

lemma keys_ofList_map (ks : List κ) (f : κ → α) :
    (ofList (ks.map fun k => (k, f k))).keys = ks.eraseDups := by
  rw [keys_ofList, List.map_map]
  exact congrArg List.eraseDups (List.map_id ks)

lemma nodup_eraseDups (ks : List κ) : ks.eraseDups.Nodup := by
  rw [← keys_ofList_map ks fun _ => ()]
  exact (ofList _).keys_nodup

lemma entries_ofList_map (ks : List κ) (f : κ → α) :
    (ofList (ks.map fun k => (k, f k))).entries = ks.eraseDups.map fun k => (k, f k) := by
  have hvalue : ∀ e ∈ (ofList (ks.map fun k => (k, f k))).entries, (e.1, f e.1) = e := by
    intro e he
    obtain ⟨k, -, rfl⟩ := List.mem_map.mp (mem_of_mem_ofList he)
    rfl
  rw [← keys_ofList_map ks f, keys, List.map_map]
  exact ((List.map_congr_left hvalue).trans (List.map_id _)).symm

lemma lookup_map (ks : List κ) (f : κ → α) (k : κ) :
    (ks.map fun k => (k, f k)).lookup k = if k ∈ ks then some (f k) else none := by
  induction ks with
  | nil => rfl
  | cons l ks ih =>
    rw [List.map_cons, lookup_cons_eq, ih]
    by_cases hl : k = l
    · simp [hl]
    · simp [hl]

/-! ### Maps with related values -/

section Related

variable {R : α → β → Prop}

lemma forall₂_put {d : κ × α} {g : κ × β} (hdg : d.1 = g.1 ∧ R d.2 g.2) {es : List (κ × α)}
    {fs : List (κ × β)} (h : List.Forall₂ (fun e f => e.1 = f.1 ∧ R e.2 f.2) es fs) :
    List.Forall₂ (fun e f => e.1 = f.1 ∧ R e.2 f.2) (put d.1 d.2 es) (put g.1 g.2 fs) := by
  obtain ⟨k, a⟩ := d
  obtain ⟨l, b⟩ := g
  obtain ⟨rfl, hab⟩ := hdg
  induction h with
  | nil => exact .cons ⟨rfl, hab⟩ .nil
  | @cons e f es fs hef h ih =>
    rw [put, put, hef.1]
    split
    · exact .cons ⟨rfl, hab⟩ h
    · exact .cons hef ih

lemma forall₂_entries_ofList {es : List (κ × α)} {fs : List (κ × β)}
    (h : List.Forall₂ (fun e f => e.1 = f.1 ∧ R e.2 f.2) es fs) :
    List.Forall₂ (fun e f => e.1 = f.1 ∧ R e.2 f.2) (ofList es).entries (ofList fs).entries := by
  have hfold (m : OrderedMap κ α) (n : OrderedMap κ β)
      (hmn : List.Forall₂ (fun e f => e.1 = f.1 ∧ R e.2 f.2) m.entries n.entries) :
      List.Forall₂ (fun e f => e.1 = f.1 ∧ R e.2 f.2)
        (es.foldl (fun m e => m.insert e.1 e.2) m).entries
        (fs.foldl (fun m e => m.insert e.1 e.2) n).entries := by
    induction h generalizing m n with
    | nil => exact hmn
    | @cons e f es fs hef h ih =>
      exact ih _ _ (forall₂_put hef hmn)
  exact hfold empty empty .nil

end Related

/-! ### Maps from maps -/

lemma put_put_self (k : κ) (a b : α) (es : List (κ × α)) :
    put k a (put k b es) = put k a es := by
  induction es with
  | nil => simp [put]
  | cons e es ih =>
    by_cases he : e.1 = k
    · simp [put, he]
    · simp [put, he, ih]

/-- Two keys are written in either order when one of them has its place already. -/
lemma put_put_comm {k l : κ} (h : k ≠ l) (a b : α) {es : List (κ × α)}
    (hk : k ∈ es.map Prod.fst) : put k a (put l b es) = put l b (put k a es) := by
  induction es with
  | nil => cases hk
  | cons e es ih =>
    by_cases he : e.1 = k
    · simp [put, he, h]
    · have hk' : k ∈ es.map Prod.fst := (List.mem_cons.mp hk).resolve_left (Ne.symm he)
      by_cases hl : e.1 = l
      · simp [put, hl, h.symm]
      · simp [put, hl, he, ih hk']

lemma mem_keys_insert_self (m : OrderedMap κ α) (k : κ) (a : α) : k ∈ (m.insert k a).keys := by
  rw [← contains_eq_true_iff, contains, get?_insert, if_pos rfl]
  rfl

/-- A key that is present keeps its place, so that its value may as well be written last. -/
lemma foldl_insert_comm {k : κ} {a : α} {es : List (κ × α)} (hk : k ∉ es.map Prod.fst)
    {m : OrderedMap κ α} (hm : k ∈ m.keys) :
    es.foldl (fun m e => m.insert e.1 e.2) (m.insert k a) =
      (es.foldl (fun m e => m.insert e.1 e.2) m).insert k a := by
  induction es generalizing m with
  | nil => rfl
  | cons e es ih =>
    rw [List.map_cons, List.mem_cons, not_or] at hk
    have hcomm : (m.insert k a).insert e.1 e.2 = (m.insert e.1 e.2).insert k a :=
      eq_of_entries (put_put_comm hk.1 a e.2 hm).symm
    have hkeep : k ∈ (m.insert e.1 e.2).keys := by
      rw [← contains_eq_true_iff, contains, get?_insert, if_neg hk.1]
      exact contains_eq_true_iff.mpr hm
    rw [List.foldl_cons, List.foldl_cons, hcomm, ih hk.2 hkeep]

lemma foldl_insert_put (k : κ) (a : α) {es : List (κ × α)} (h : (es.map Prod.fst).Nodup)
    (m : OrderedMap κ α) :
    (put k a es).foldl (fun m e => m.insert e.1 e.2) m =
      (es.foldl (fun m e => m.insert e.1 e.2) m).insert k a := by
  induction es generalizing m with
  | nil => rfl
  | cons e es ih =>
    rw [List.map_cons, List.nodup_cons] at h
    rw [put]
    by_cases he : e.1 = k
    · subst he
      have hself : m.insert e.1 a = (m.insert e.1 e.2).insert e.1 a :=
        eq_of_entries (put_put_self e.1 a e.2 m.entries).symm
      rw [if_pos rfl, List.foldl_cons, List.foldl_cons, hself,
        foldl_insert_comm h.1 (mem_keys_insert_self m e.1 e.2)]
    · rw [if_neg he, List.foldl_cons, List.foldl_cons, ih h.2]

/-- **Entries may be collected in a map of their own before they are written.** -/
theorem foldl_insert_entries_ofList (es : List (κ × α)) (m : OrderedMap κ α) :
    (ofList es).entries.foldl (fun m e => m.insert e.1 e.2) m =
      es.foldl (fun m e => m.insert e.1 e.2) m := by
  -- from the end, where the map is written last
  induction es using List.reverseRecOn with
  | nil => rfl
  | append_singleton es e ih =>
    rw [ofList_concat, List.foldl_append, List.foldl_cons, List.foldl_nil, ← ih]
    exact foldl_insert_put e.1 e.2 (ofList es).keys_nodup m

lemma ofList_flatMap_entries {ι : Type} (f : ι → List (κ × α)) (xs : List ι) :
    ofList (xs.flatMap fun x => (ofList (f x)).entries) = ofList (xs.flatMap f) := by
  have h (m : OrderedMap κ α) :
      (xs.flatMap fun x => (ofList (f x)).entries).foldl (fun m e => m.insert e.1 e.2) m =
        (xs.flatMap f).foldl (fun m e => m.insert e.1 e.2) m := by
    induction xs generalizing m with
    | nil => rfl
    | cons x xs ih =>
      rw [List.flatMap_cons, List.flatMap_cons, List.foldl_append, List.foldl_append,
        foldl_insert_entries_ofList, ih]
  exact h empty

end QueryGate.OrderedMap
