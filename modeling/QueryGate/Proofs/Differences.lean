import Mathlib.Data.Finset.Dedup
import Mathlib.Data.Finset.SDiff
import QueryGate.Catalog.Difference
import QueryGate.Proofs.Maps

/-!
What a difference says of two catalogs. With the old catalog at hand it tells which tables the new
one has and which columns they have, up to normal form: no change is left out, and none is made up.
-/

namespace QueryGate

/-- The normal forms of some names. -/
def Identifier.normalForms (names : List String) : Finset String := (names.map normalize).toFinset

/-- The normal forms of the names of a table's columns. -/
def Table.normalNames (t : Table) : Finset String := (t.columns.map Column.normalName).toFinset

/-- The columns, by their normal forms, of a table that had the columns `names` before a change. -/
def TableChange.applyTo (ch : TableChange) (names : Finset String) : Finset String :=
  names \ Identifier.normalForms ch.removedColumns ∪ Identifier.normalForms ch.addedColumns

namespace Table

lemma mem_normalNames {t : Table} {column : String} :
    column ∈ t.normalNames ↔ t.hasColumn column = true := by
  simp [normalNames, hasColumn]

lemma mem_normalNames_of_mem {t : Table} {c : Column} (h : c ∈ t.columns) :
    c.normalName ∈ t.normalNames :=
  List.mem_toFinset.mpr (List.mem_map_of_mem h)

end Table

namespace Difference

/-- The change of a table. A table without an entry does not change. -/
def change (d : Difference) (table : String) : TableChange :=
  (d.changed.find? fun ch => ch.table = table).getD ⟨table, [], []⟩

variable {old new : Catalog} {s t u : Table} {name : String} {ch : TableChange}

/-! ### Columns -/

lemma mem_columnsLost : name ∈ columnsLost s t ↔
    ∃ c ∈ s.columns, c.name = name ∧ c.normalName ∉ t.normalNames := by
  simp only [columnsLost, List.mem_map, List.mem_filter, Table.mem_normalNames, Bool.not_eq_true',
    Bool.not_eq_true]
  exact exists_congr fun c => ⟨fun h => ⟨h.1.1, h.2, h.1.2⟩, fun h => ⟨⟨h.1, h.2.2⟩, h.2.1⟩⟩

lemma normalForms_columnsLost (s t : Table) :
    Identifier.normalForms (columnsLost s t) = s.normalNames \ t.normalNames := by
  ext column
  rw [Identifier.normalForms, List.mem_toFinset, List.mem_map, Finset.mem_sdiff]
  constructor
  · rintro ⟨name, hname, rfl⟩
    obtain ⟨c, hc, rfl, ht⟩ := mem_columnsLost.mp hname
    exact ⟨Table.mem_normalNames_of_mem hc, ht⟩
  · rintro ⟨hs, ht⟩
    obtain ⟨c, hc, rfl⟩ := List.mem_map.mp (List.mem_toFinset.mp hs)
    exact ⟨c.name, mem_columnsLost.mpr ⟨c, hc, rfl, ht⟩, rfl⟩

lemma columnsLost_eq_nil_iff : columnsLost s t = [] ↔ s.normalNames ⊆ t.normalNames := by
  rw [← Finset.sdiff_eq_empty_iff_subset, ← normalForms_columnsLost, Identifier.normalForms,
    List.toFinset_eq_empty_iff, List.map_eq_nil_iff]

lemma ofTables?_eq_none_iff : ofTables? name t u = none ↔ t.normalNames = u.normalNames := by
  simp only [ofTables?, ite_eq_left_iff, reduceCtorEq, imp_false, not_not, Bool.and_eq_true,
    List.isEmpty_iff, columnsLost_eq_nil_iff]
  exact ⟨fun h => h.2.antisymm h.1, fun h => ⟨h.ge, h.le⟩⟩

lemma ofTables?_eq_some_iff : ofTables? name t u = some ch ↔
    t.normalNames ≠ u.normalNames ∧ ch = ⟨name, columnsLost u t, columnsLost t u⟩ := by
  have hnone : ofTables? name t u = none ↔ t.normalNames = u.normalNames := ofTables?_eq_none_iff
  rw [ne_eq, ← hnone]
  simp only [ofTables?]
  split <;> simp [eq_comm]

/-! ### Tables -/

lemma mem_changed_iff : ch ∈ (between old new).changed ↔
    ∃ name t u, old.get? name = some t ∧ new.get? name = some u ∧
      ofTables? name t u = some ch := by
  simp only [between, List.mem_filterMap, Prod.exists, Option.bind_eq_some_iff,
    ← OrderedMap.get?_eq_some_iff]
  constructor
  · rintro ⟨name, u, hu, t, ht, h⟩
    exact ⟨name, t, u, ht, hu, h⟩
  · rintro ⟨name, t, u, ht, hu, h⟩
    exact ⟨name, u, hu, t, ht, h⟩

/-- Entries come in the order of the new tables, each under a name that both catalogs have. -/
lemma sublist_changed (old new : Catalog) :
    ((between old new).changed.map TableChange.table).Sublist
      (new.keys.filter fun name => name ∈ old.keys) := by
  rw [between, OrderedMap.keys]
  induction new.entries with
  | nil => exact .slnil
  | cons e es ih =>
    rw [List.map_cons, List.filterMap_cons]
    rcases h : (old.get? e.1).bind fun t => ofTables? e.1 t e.2 with _ | ch
    · exact ih.trans ((List.sublist_cons_self _ _).filter _)
    · obtain ⟨t, ht, hch⟩ := Option.bind_eq_some_iff.mp h
      have hold : e.1 ∈ old.keys := by
        rw [← OrderedMap.contains_eq_true_iff, OrderedMap.contains, ht]
        rfl
      simp only [List.map_cons, List.filter_cons, hold, decide_true, if_true]
      rw [(ofTables?_eq_some_iff.mp hch).2]
      exact ih.cons_cons e.1

lemma nodup_changed (old new : Catalog) :
    ((between old new).changed.map TableChange.table).Nodup :=
  (new.keys_nodup.sublist List.filter_sublist).sublist (sublist_changed old new)

/-- A table in both catalogs has the entry that its own columns give. -/
lemma find?_changed (ht : old.get? name = some t) (hu : new.get? name = some u) :
    (between old new).changed.find? (fun ch => ch.table = name) = ofTables? name t u := by
  rcases hfind : (between old new).changed.find? fun ch => ch.table = name with _ | ch
  · rcases hch : ofTables? name t u with _ | ch
    · exact hfind
    · have hmem : ch ∈ (between old new).changed := mem_changed_iff.mpr ⟨name, t, u, ht, hu, hch⟩
      have hname : ch.table = name := by rw [(ofTables?_eq_some_iff.mp hch).2]
      exact absurd (decide_eq_true hname) (List.find?_eq_none.mp hfind ch hmem)
  · obtain ⟨name', t', u', ht', hu', hch⟩ := mem_changed_iff.mp (List.mem_of_find?_eq_some hfind)
    have hname : ch.table = name := by simpa using List.find?_some hfind
    obtain rfl : name' = name := by rw [← hname, (ofTables?_eq_some_iff.mp hch).2]
    rw [ht, Option.some.injEq] at ht'
    rw [hu, Option.some.injEq] at hu'
    rw [hfind, ht', hu', hch]

lemma change_between (ht : old.get? name = some t) (hu : new.get? name = some u) :
    (between old new).change name = ⟨name, columnsLost u t, columnsLost t u⟩ := by
  rw [change, find?_changed ht hu]
  rcases h : ofTables? name t u with _ | ch
  · have hsame := ofTables?_eq_none_iff.mp h
    rw [columnsLost_eq_nil_iff.mpr hsame.le, columnsLost_eq_nil_iff.mpr hsame.ge]
    rfl
  · rw [(ofTables?_eq_some_iff.mp h).2]
    rfl

lemma changed_eq_nil_iff : (between old new).changed = [] ↔
    ∀ name t u, old.get? name = some t → new.get? name = some u →
      t.normalNames = u.normalNames := by
  constructor
  · intro h name t u ht hu
    have hfind := find?_changed ht hu
    rw [h, List.find?_nil] at hfind
    exact ofTables?_eq_none_iff.mp hfind.symm
  · intro h
    rw [List.eq_nil_iff_forall_not_mem]
    intro ch hch
    obtain ⟨name, t, u, ht, hu, hch⟩ := mem_changed_iff.mp hch
    exact (ofTables?_eq_some_iff.mp hch).1 (h name t u ht hu)

lemma filter_not_contains (c d : Catalog) :
    (c.keys.filter fun name => !d.contains name) = c.keys.filter fun name => name ∉ d.keys := by
  refine List.filter_congr fun name _ => ?_
  rw [Bool.eq_iff_iff, Bool.not_eq_true', decide_eq_true_iff, ← OrderedMap.contains_eq_true_iff,
    Bool.not_eq_true]

/-! ### All changes -/

/-- A difference that says what became of every table of a catalog. -/
structure Describes (d : Difference) (old new : Catalog) : Prop where
  added : d.added = new.keys.filter fun name => name ∉ old.keys
  removed : d.removed = old.keys.filter fun name => name ∉ new.keys
  changed : (d.changed.map TableChange.table).Sublist
    (new.keys.filter fun name => name ∈ old.keys)
  unrepeated : (d.changed.map TableChange.table).Nodup
  columns : ∀ name t u, old.get? name = some t → new.get? name = some u →
    u.normalNames = (d.change name).applyTo t.normalNames
  /-- Columns are reported by the names that they have in their own catalog. -/
  removedColumns : ∀ name t u, old.get? name = some t → new.get? name = some u →
    ∀ column ∈ (d.change name).removedColumns,
      column ∈ t.columns.map Column.name ∧ Identifier.normalize column ∉ u.normalNames
  addedColumns : ∀ name t u, old.get? name = some t → new.get? name = some u →
    ∀ column ∈ (d.change name).addedColumns,
      column ∈ u.columns.map Column.name ∧ Identifier.normalize column ∉ t.normalNames

lemma mem_of_mem_columnsLost (h : name ∈ columnsLost s t) :
    name ∈ s.columns.map Column.name ∧ Identifier.normalize name ∉ t.normalNames := by
  obtain ⟨c, hc, rfl, ht⟩ := mem_columnsLost.mp h
  exact ⟨List.mem_map_of_mem hc, ht⟩

lemma describes_between (old new : Catalog) : (between old new).Describes old new where
  added := filter_not_contains new old
  removed := filter_not_contains old new
  changed := sublist_changed old new
  unrepeated := nodup_changed old new
  columns name t u ht hu := by
    rw [change_between ht hu, TableChange.applyTo, normalForms_columnsLost,
      normalForms_columnsLost]
    ext column
    simp only [Finset.mem_union, Finset.mem_sdiff]
    tauto
  removedColumns name t u ht hu column h := by
    rw [change_between ht hu] at h
    exact mem_of_mem_columnsLost h
  addedColumns name t u ht hu column h := by
    rw [change_between ht hu] at h
    exact mem_of_mem_columnsLost h

lemma isEmpty_iff {d : Difference} :
    d.isEmpty = true ↔ d.added = [] ∧ d.removed = [] ∧ d.changed = [] := by
  simp [isEmpty, and_assoc]

/-- There is no difference just when both catalogs have the same tables, and these the same columns
up to normal form. -/
lemma isEmpty_between_iff : (between old new).isEmpty = true ↔
    (∀ name, name ∈ old.keys ↔ name ∈ new.keys) ∧
      ∀ name t u, old.get? name = some t → new.get? name = some u →
        t.normalNames = u.normalNames := by
  have hadded : (between old new).added = [] ↔ ∀ name ∈ new.keys, name ∈ old.keys := by
    rw [(describes_between old new).added, List.filter_eq_nil_iff]
    simp
  have hremoved : (between old new).removed = [] ↔ ∀ name ∈ old.keys, name ∈ new.keys := by
    rw [(describes_between old new).removed, List.filter_eq_nil_iff]
    simp
  rw [isEmpty_iff, hadded, hremoved, changed_eq_nil_iff]
  constructor
  · rintro ⟨hnew, hold, hcolumns⟩
    exact ⟨fun name => ⟨hold name, hnew name⟩, hcolumns⟩
  · rintro ⟨hkeys, hcolumns⟩
    exact ⟨fun name => (hkeys name).mpr, fun name => (hkeys name).mp, hcolumns⟩

/-- **A difference is complete and exact.** It describes the change from one catalog to another,
and is empty just when both have the same tables with the same columns, up to normal form. -/
theorem between_describes (old new : Catalog) :
    (between old new).Describes old new ∧
      ((between old new).isEmpty = true ↔ (∀ name, name ∈ old.keys ↔ name ∈ new.keys) ∧
        ∀ name t u, old.get? name = some t → new.get? name = some u →
          t.normalNames = u.normalNames) :=
  ⟨describes_between old new, isEmpty_between_iff⟩

example :
    between
      (.ofList [("a", ⟨[.ofName "x"], [], []⟩), ("b", ⟨[.ofName "x", .ofName "Y"], [], []⟩)])
      (.ofList [("b", ⟨[.ofName "\"X\""], [], []⟩), ("c", ⟨[.ofName "z"], [], []⟩)]) =
      ⟨["c"], ["a"], [⟨"b", [], ["Y"]⟩]⟩ := by
  decide +kernel

end Difference

end QueryGate
