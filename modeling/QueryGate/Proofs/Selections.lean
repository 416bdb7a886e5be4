import QueryGate.Proofs.Maps

/-!
Parts of maps. Some keys are chosen and named anew, and what is chosen of a map is a map under the
new names; it is written and erased as the map is.
-/

namespace QueryGate.OrderedMap

variable {κ ι α : Type}

/-- Some keys, each under a name of its own. -/
structure Selection (κ ι : Type) where
  name? : κ → Option ι
  key : ι → κ
  name?_eq_some_iff : ∀ {k i}, name? k = some i ↔ k = key i

namespace Selection

variable {s : Selection κ ι} {k : κ} {i : ι} {es : List (κ × α)}

lemma name?_key (s : Selection κ ι) (i : ι) : s.name? (s.key i) = some i :=
  s.name?_eq_some_iff.mpr rfl

lemma name?_eq_none (h : ∀ i, k ≠ s.key i) : s.name? k = none :=
  Option.eq_none_iff_forall_ne_some.mpr fun i hi => h i (s.name?_eq_some_iff.mp hi)

/-- The entries whose keys are chosen, under the names. -/
def named (s : Selection κ ι) (es : List (κ × α)) : List (ι × α) :=
  es.filterMap fun e => (s.name? e.1).map (·, e.2)

lemma named_cons_of_some (h : s.name? k = some i) (a : α) (es : List (κ × α)) :
    s.named ((k, a) :: es) = (i, a) :: s.named es := by
  simp [named, h]

lemma named_cons_of_none (h : s.name? k = none) (a : α) (es : List (κ × α)) :
    s.named ((k, a) :: es) = s.named es := by
  simp [named, h]

lemma mem_named_iff {a : α} : (i, a) ∈ s.named es ↔ (s.key i, a) ∈ es := by
  rw [named, List.mem_filterMap]
  constructor
  · rintro ⟨⟨k, b⟩, he, hname⟩
    obtain ⟨j, hk, hj⟩ := Option.map_eq_some_iff.mp hname
    cases hj
    rwa [← s.name?_eq_some_iff.mp hk]
  · exact fun he => ⟨(s.key i, a), he, by simp [s.name?_key]⟩

lemma nodup_named (h : (es.map Prod.fst).Nodup) : ((s.named es).map Prod.fst).Nodup := by
  rw [List.Nodup, List.pairwise_map] at h
  rw [List.Nodup, List.pairwise_map, named, List.pairwise_filterMap]
  refine h.imp fun hne x hx y hy hname => hne ?_
  obtain ⟨i, hi, rfl⟩ := Option.map_eq_some_iff.mp hx
  obtain ⟨j, hj, rfl⟩ := Option.map_eq_some_iff.mp hy
  rw [s.name?_eq_some_iff.mp hi, s.name?_eq_some_iff.mp hj]
  exact congrArg s.key hname

variable [DecidableEq κ]

lemma named_put_of_none (h : s.name? k = none) (a : α) (es : List (κ × α)) :
    s.named (put k a es) = s.named es := by
  induction es with
  | nil => exact named_cons_of_none h a []
  | cons e es ih =>
    obtain ⟨l, b⟩ := e
    by_cases hl : l = k
    · subst hl
      rw [put, if_pos rfl, named_cons_of_none h, named_cons_of_none h]
    · rw [put, if_neg hl]
      rcases hj : s.name? l with _ | j
      · rw [named_cons_of_none hj, named_cons_of_none hj, ih]
      · rw [named_cons_of_some hj, named_cons_of_some hj, ih]

lemma named_filter_of_none (h : s.name? k = none) (es : List (κ × α)) :
    s.named (es.filter (·.1 ≠ k)) = s.named es := by
  rw [named, named, List.filterMap_filter]
  refine List.filterMap_congr fun e _ => ?_
  by_cases he : e.1 = k
  · simp [he, h]
  · simp [he]

variable [DecidableEq ι]

lemma named_put_key (s : Selection κ ι) (i : ι) (a : α) (es : List (κ × α)) :
    s.named (put (s.key i) a es) = put i a (s.named es) := by
  induction es with
  | nil => exact named_cons_of_some (s.name?_key i) a []
  | cons e es ih =>
    obtain ⟨l, b⟩ := e
    by_cases hl : l = s.key i
    · subst hl
      rw [put, if_pos rfl, named_cons_of_some (s.name?_key i), named_cons_of_some (s.name?_key i),
        put, if_pos rfl]
    · rw [put, if_neg hl]
      rcases hj : s.name? l with _ | j
      · rw [named_cons_of_none hj, named_cons_of_none hj, ih]
      · have hne : j ≠ i := by
          rintro rfl
          exact hl (s.name?_eq_some_iff.mp hj)
        rw [named_cons_of_some hj, named_cons_of_some hj, put, if_neg hne, ih]

lemma named_filter_key (s : Selection κ ι) (i : ι) (es : List (κ × α)) :
    s.named (es.filter (·.1 ≠ s.key i)) = (s.named es).filter (·.1 ≠ i) := by
  rw [named, named, List.filterMap_filter, List.filter_filterMap]
  refine List.filterMap_congr fun e _ => ?_
  by_cases he : e.1 = s.key i
  · simp [he, s.name?_key, Option.filter_some]
  · rcases hj : s.name? e.1 with _ | j
    · simp [he]
    · have hne : j ≠ i := by
        rintro rfl
        exact he (s.name?_eq_some_iff.mp hj)
      simp [he, hne, Option.filter_some]

end Selection

variable [DecidableEq κ] {m : OrderedMap κ α} {s : Selection κ ι} {k : κ}

/-- What is chosen of a map, under the names. -/
def select (m : OrderedMap κ α) (s : Selection κ ι) : OrderedMap ι α :=
  ⟨s.named m.entries, Selection.nodup_named m.keys_nodup⟩

lemma select_insert_of_ne (h : ∀ i, k ≠ s.key i) (a : α) :
    (m.insert k a).select s = m.select s :=
  eq_of_entries (Selection.named_put_of_none (Selection.name?_eq_none h) a m.entries)

lemma select_erase_of_ne (h : ∀ i, k ≠ s.key i) : (m.erase k).select s = m.select s :=
  eq_of_entries (Selection.named_filter_of_none (Selection.name?_eq_none h) m.entries)

variable [DecidableEq ι] (m) (s) (i : ι)

lemma get?_select : (m.select s).get? i = m.get? (s.key i) := by
  refine Option.ext fun a => ?_
  rw [get?_eq_some_iff, get?_eq_some_iff]
  exact Selection.mem_named_iff

lemma select_insert (a : α) : (m.insert (s.key i) a).select s = (m.select s).insert i a :=
  eq_of_entries (s.named_put_key i a m.entries)

lemma select_erase : (m.erase (s.key i)).select s = (m.select s).erase i :=
  eq_of_entries (s.named_filter_key i m.entries)

end QueryGate.OrderedMap
