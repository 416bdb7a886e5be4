import QueryGate.Catalog
import QueryGate.Proofs.Maps

/-!
Catalogs in normal form. A table in normal form stays as it is, and so does a catalog whose tables
have names that are their own normal forms.
-/

namespace QueryGate

namespace Table

lemma distinct_eq_self {seen : List String} {cs : List Column}
    (hseen : ∀ c ∈ cs, c.normalName ∉ seen) (hnodup : (cs.map Column.normalName).Nodup) :
    distinct seen cs = cs := by
  induction cs generalizing seen with
  | nil => rfl
  | cons c cs ih =>
    rw [List.map_cons, List.nodup_cons] at hnodup
    rw [distinct, if_neg (hseen c List.mem_cons_self), ih _ hnodup.2]
    intro d hd
    rw [List.mem_cons, not_or]
    refine ⟨fun e => hnodup.1 ?_, hseen d (List.mem_cons_of_mem _ hd)⟩
    rw [← e]
    exact List.mem_map_of_mem hd

lemma not_mem_seen_of_mem_distinct {seen : List String} {cs : List Column} :
    ∀ c ∈ distinct seen cs, c.normalName ∉ seen := by
  induction cs generalizing seen with
  | nil => simp [distinct]
  | cons c cs ih =>
    rw [distinct]
    split
    · exact ih
    · next hc =>
      rintro d hd
      rcases List.mem_cons.mp hd with rfl | hd
      · exact hc
      · exact fun h => ih d hd (List.mem_cons_of_mem _ h)

lemma nodup_distinct (seen : List String) (cs : List Column) :
    ((distinct seen cs).map Column.normalName).Nodup := by
  induction cs generalizing seen with
  | nil => simp [distinct]
  | cons c cs ih =>
    rw [distinct]
    split
    · exact ih seen
    · rw [List.map_cons, List.nodup_cons]
      refine ⟨fun h => ?_, ih _⟩
      obtain ⟨d, hd, e⟩ := List.mem_map.mp h
      exact not_mem_seen_of_mem_distinct d hd (e ▸ List.mem_cons_self)

/-- Leaving out columns that repeat others loses no name. -/
lemma any_distinct (seen : List String) (cs : List Column) (column : String)
    (h : column ∉ seen) : (distinct seen cs).any (·.normalName = column) =
      cs.any (·.normalName = column) := by
  induction cs generalizing seen with
  | nil => rfl
  | cons c cs ih =>
    rw [distinct, List.any_cons]
    split
    · next hc =>
      have hne : c.normalName ≠ column := fun e => h (e ▸ hc)
      rw [ih seen h, decide_eq_false hne, Bool.false_or]
    · rw [List.any_cons]
      by_cases hc : c.normalName = column
      · rw [decide_eq_true hc, Bool.true_or, Bool.true_or]
      · rw [ih _ (List.not_mem_cons_of_ne_of_not_mem (Ne.symm hc) h)]

lemma hasColumn_normalize (t : Table) (column : String) :
    t.normalize.hasColumn column = t.hasColumn column :=
  any_distinct [] t.columns column List.not_mem_nil

lemma normalize_normalize (t : Table) : t.normalize.normalize = t.normalize := by
  rw [normalize, normalize, distinct_eq_self (by simp) (nodup_distinct [] t.columns)]

end Table

namespace Catalog

lemma exists_of_mem_normalize {c : Catalog} {e : String × Table} (h : e ∈ c.normalize.entries) :
    ∃ f ∈ c.entries, e = (Identifier.normalize f.1, f.2.normalize) := by
  obtain ⟨f, hf, rfl⟩ := List.mem_map.mp (OrderedMap.mem_of_mem_ofList h)
  exact ⟨f, hf, rfl⟩

lemma keys_normalize (c : Catalog) :
    c.normalize.keys = (c.keys.map Identifier.normalize).eraseDups := by
  rw [normalize, OrderedMap.keys_ofList, OrderedMap.keys, List.map_map, List.map_map]
  rfl

lemma mem_keys_normalize {c : Catalog} {name : String} :
    name ∈ c.normalize.keys ↔ ∃ raw ∈ c.keys, Identifier.normalize raw = name := by
  rw [keys_normalize, List.mem_eraseDups, List.mem_map]

lemma nodup_of_mem_normalize {c : Catalog} {e : String × Table} (h : e ∈ c.normalize.entries) :
    (e.2.columns.map Column.normalName).Nodup := by
  obtain ⟨f, -, rfl⟩ := exists_of_mem_normalize h
  exact Table.nodup_distinct [] f.2.columns

/-- Whether the names of all tables are in normal form. -/
def HasFixedNames (c : Catalog) : Prop := ∀ name ∈ c.keys, Identifier.normalize name = name

instance (c : Catalog) : Decidable c.HasFixedNames :=
  inferInstanceAs (Decidable (∀ name ∈ c.keys, Identifier.normalize name = name))

lemma normalize_normalize {c : Catalog} (h : c.normalize.HasFixedNames) :
    c.normalize.normalize = c.normalize := by
  have hmap : c.normalize.entries.map (fun e => (Identifier.normalize e.1, e.2.normalize)) =
      c.normalize.entries := by
    rw [List.map_congr_left, List.map_id]
    intro e he
    have hname : Identifier.normalize e.1 = e.1 := h e.1 (List.mem_map_of_mem he)
    obtain ⟨f, -, hf⟩ := exists_of_mem_normalize he
    have htable : e.2.normalize = e.2 := by
      rw [hf, Table.normalize_normalize]
    rw [hname, htable]
    rfl
  rw [normalize, hmap, OrderedMap.ofList_entries]

end Catalog

end QueryGate
