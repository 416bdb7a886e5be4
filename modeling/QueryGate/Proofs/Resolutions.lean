import QueryGate.Proofs.Allowed

/-!
What is reported of a statement. Its references are read off its maximal chains from left to right,
and each of them that stands for no column is reported once, in the same order.
-/

namespace QueryGate

lemma Reference.length_pairs (ns : List String) : (pairs ns).length = ns.length / 2 := by
  induction ns using pairs.induct with
  | case1 q c ns ih =>
    have hpairs : (pairs (q :: c :: ns)).length = ns.length / 2 + 1 := by
      rw [pairs, List.length_cons, ih]
    rw [hpairs, List.length_cons, List.length_cons]
    omega
  | case2 ns h =>
    rcases ns with _ | ⟨q, _ | ⟨c, ns⟩⟩
    · rfl
    · simp [pairs]
    · exact (h q c ns rfl).elim

namespace Resolution

variable {tables : Catalog} {aliases : OrderedMap String String}

instance (r : Reference) : Decidable (r.Resolves tables aliases) :=
  decidable_of_iff (unknown? tables aliases r = none) unknown?_eq_none_iff

/-- How a reference that stands for no column is written: as it is when there is no such table, and
with the name of the table when only the column is missing. -/
inductive Written (tables : Catalog) (aliases : OrderedMap String String) (r : Reference) :
    String → Prop
  | noTable : tables.get? (base aliases r.qualifier) = none →
      Written tables aliases r (r.qualifier ++ "." ++ r.column)
  | noColumn {t : Table} : tables.get? (base aliases r.qualifier) = some t →
      (∀ c ∈ t.columns, c.normalName ≠ r.column) →
      Written tables aliases r (base aliases r.qualifier ++ "." ++ r.column)

lemma written_of_unknown? {r : Reference} {entry : String}
    (h : unknown? tables aliases r = some entry) : Written tables aliases r entry := by
  unfold unknown? at h
  simp only at h
  split at h
  · next hb =>
    cases h
    exact .noTable hb
  · next t hb =>
    split at h
    · cases h
    · next hc =>
      cases h
      refine .noColumn hb fun c hmem he => hc ?_
      simpa [Table.hasColumn] using ⟨c, hmem, he⟩

lemma forall₂_written (rs : List Reference) :
    List.Forall₂ (Written tables aliases) (rs.filter fun r => ¬ r.Resolves tables aliases)
      (rs.filterMap (unknown? tables aliases)) := by
  induction rs with
  | nil => exact .nil
  | cons r rs ih =>
    rcases hr : unknown? tables aliases r with _ | entry
    · have hres := unknown?_eq_none_iff.mp hr
      rw [List.filterMap_cons_none hr, List.filter_cons_of_neg (by simpa using hres)]
      exact ih
    · have hres : ¬ r.Resolves tables aliases := by
        rw [← unknown?_eq_none_iff, hr]
        simp
      rw [List.filterMap_cons_some hr, List.filter_cons_of_pos (by simpa using hres)]
      exact .cons (written_of_unknown? hr) ih

/-- **Every pair of a maximal chain is resolved or reported, once and in order.** -/
theorem report_exact (words : ClauseWords) (s : Snapshot) (sql : String) :
    let e := Extraction.ofText words sql
    (∃ places, Chain.Places (Lexeme.ofText sql) places ∧
      e.references = places.flatMap (fun p => Reference.pairs p.names) ∧
      ∀ p ∈ places, (Reference.pairs p.names).length = p.names.length / 2) ∧
    List.Forall₂ (Written s.tables e.aliases)
      (e.references.filter fun r => ¬ r.Resolves s.tables e.aliases)
      (report words s sql).unknown ∧
    ((report words s sql).ok = true ↔ ∀ r ∈ e.references, r.Resolves s.tables e.aliases) := by
  intro e
  refine ⟨?_, forall₂_written e.references, ofExtraction_ok_iff⟩
  obtain ⟨places, hplaces, hrefs⟩ := Reference.exists_places (Lexeme.ofText sql)
  exact ⟨places, hplaces, hrefs, fun p _ => Reference.length_pairs p.names⟩

/-- A chain of five names has two references, and both are missing from the snapshot. -/
example : (report Reference.clauseWords Gate.users
    "SELECT u . id, a.b.u.d.e FROM users AS u").unknown = ["a.b", "users.d"] := by
  decide +kernel

end Resolution

end QueryGate
