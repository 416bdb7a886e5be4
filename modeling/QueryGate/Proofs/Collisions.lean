import QueryGate.Proofs.NormalForms

/-!
Names with one normal form. Of several tables the last one counts, in the place of the first; of
several columns of a table the first one counts, and none is changed.
-/

namespace QueryGate

/-! ### Columns -/

namespace Table

/-- The columns whose normal form no column in front of them has. -/
def firsts (cs : List Column) : List Column :=
  (cs.zipIdx.filter fun p => p.1.normalName ∉ (cs.take p.2).map Column.normalName).map Prod.fst

/-- The names that have been seen are those of the columns `front` that have been passed. -/
lemma distinct_eq_filter {seen : List String} (front : List Column)
    (hseen : ∀ name, name ∈ seen ↔ name ∈ front.map Column.normalName) (cs : List Column) :
    distinct seen cs = ((cs.zipIdx front.length).filter fun p =>
      p.1.normalName ∉ ((front ++ cs).take p.2).map Column.normalName).map Prod.fst := by
  induction cs generalizing seen front with
  | nil => rfl
  | cons c cs ih =>
    have htake : (front ++ c :: cs).take front.length = front := List.take_left
    have happend : front ++ c :: cs = (front ++ [c]) ++ cs := by simp
    have hlength : front.length + 1 = (front ++ [c]).length := by simp
    rw [distinct, List.zipIdx_cons, List.filter_cons]
    simp only [htake, ← hseen]
    by_cases hc : c.normalName ∈ seen
    · have hfront (name : String) :
          name ∈ seen ↔ name ∈ (front ++ [c]).map Column.normalName := by
        rw [List.map_append, List.mem_append, ← hseen]
        exact ⟨.inl, fun h => h.elim id fun h => by rwa [List.mem_singleton.mp h]⟩
      rw [if_pos hc, ih _ hfront, happend, hlength]
      simp [hc]
    · have hfront (name : String) : name ∈ c.normalName :: seen ↔
          name ∈ (front ++ [c]).map Column.normalName := by
        rw [List.map_append, List.mem_append, ← hseen, List.mem_cons, or_comm]
        simp
      rw [if_neg hc, ih _ hfront, happend, hlength]
      simp [hc]

lemma distinct_eq_firsts (cs : List Column) : distinct [] cs = firsts cs :=
  distinct_eq_filter [] (fun _ => Iff.rfl) cs

end Table

/-! ### Tables -/

namespace Catalog

lemma get?_normalize (c : Catalog) (name : String) : c.normalize.get? name =
    ((c.entries.filter fun e => Identifier.normalize e.1 = name).getLast?).map fun e =>
      e.2.normalize := by
  rw [normalize, OrderedMap.get?_ofList_eq_getLast?, List.filter_map, List.getLast?_map,
    Option.map_map]
  rfl

/-- **Collisions of names are resolved in one way.** The tables stand under the normal forms of
their names, each in the place of its first name and with the content of its last one. Of its columns
those are left that are the first of their normal form, in their order and as they are; so no two
columns of a table have one normal form. -/
theorem normalize_exact (c : Catalog) :
    c.normalize.keys = (c.keys.map Identifier.normalize).eraseDups ∧
      (∀ name, c.normalize.get? name =
        ((c.entries.filter fun e => Identifier.normalize e.1 = name).getLast?).map fun e =>
          ⟨Table.firsts e.2.columns, e.2.primaryKey, e.2.foreignKeys⟩) ∧
      ∀ name t, c.normalize.get? name = some t → (t.columns.map Column.normalName).Nodup := by
  refine ⟨keys_normalize c, fun name => ?_, fun name t ht => ?_⟩
  · rw [get?_normalize]
    simp only [Table.normalize, Table.distinct_eq_firsts]
  · exact nodup_of_mem_normalize (OrderedMap.get?_eq_some_iff.mp ht)

/-- Two spellings of a table around another table; the later one has two spellings of a column. -/
def colliding : Catalog :=
  .ofList [("Users", ⟨[.ofName "name"], [], []⟩), ("orders", .empty),
    (" \"USERS\" ", ⟨[.ofName "ID", .ofType "id" "text" true, .ofName "Email"], ["ID"], []⟩)]

theorem normalize_exact_colliding :
    colliding.normalize.keys = ["users", "orders"] ∧
      ∃ t, colliding.normalize.get? "users" = some t ∧
        t = ⟨[.ofName "ID", .ofName "Email"], ["ID"], []⟩ ∧
        (t.columns.map Column.normalName).Nodup := by
  obtain ⟨hkeys, hget, hnodup⟩ := normalize_exact colliding
  have hlast : colliding.normalize.get? "users" =
      some ⟨[.ofName "ID", .ofName "Email"], ["ID"], []⟩ := by
    rw [hget]
    decide +kernel
  refine ⟨?_, _, hlast, rfl, hnodup "users" _ hlast⟩
  rw [hkeys]
  decide +kernel

end Catalog

end QueryGate
