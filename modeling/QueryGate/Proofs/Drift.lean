import QueryGate.Proofs.Allowed
import QueryGate.Proofs.Differences
import QueryGate.Proofs.Names
import QueryGate.Proofs.NormalForms

/-!
When a change of tables can break a statement. The difference of two catalogs and the look-up of
names read the same tables by different ways; they agree on which changes do harm.
-/

namespace QueryGate

/-- The snapshots that can be made. -/
inductive Snapshot.Built : Snapshot → Prop
  | take (name : String) (dialect? : Option String) (tables : Catalog) (now : Timestamp) :
      Built (take name dialect? tables now)
  | restore (m : Metadata) (tables : Catalog) : Built (restore m tables)
  | update {s : Snapshot} (tables : Catalog) (now : Timestamp) :
      Built s → Built (s.update tables now)

/-- Whether nothing is lost that a statement could name. -/
structure Difference.Harmless (d : Difference) (old : Catalog) : Prop where
  columns : ∀ ch ∈ d.changed, ch.removedColumns = []
  tables : ∀ name ∈ d.removed, ∀ t, old.get? name = some t → t.columns = []

lemma Snapshot.Built.exists_normalize {s : Snapshot} (h : s.Built) :
    ∃ c : Catalog, s.tables = c.normalize := by
  induction h with
  | take name dialect? tables now => exact ⟨tables, rfl⟩
  | restore m tables => exact ⟨tables, rfl⟩
  | @update s tables now _ ih =>
    rw [Snapshot.update]
    split
    · exact ⟨tables, rfl⟩
    · exact ih

/-! ### What is known -/

/-- A catalog has a column under a table of some name. -/
def Catalog.Has (c : Catalog) (table column : String) : Prop :=
  ∃ t, c.get? table = some t ∧ t.hasColumn column = true

lemma Reference.resolves_iff {c : Catalog} {aliases : OrderedMap String String} {r : Reference} :
    r.Resolves c aliases ↔ c.Has (Resolution.base aliases r.qualifier) r.column := by
  simp [Reference.Resolves, Catalog.Has, Table.hasColumn]

lemma Resolution.report_ok_iff {words : ClauseWords} {s : Snapshot} {sql : String} :
    (report words s sql).ok = true ↔ ∀ r ∈ (Extraction.ofText words sql).references,
      s.tables.Has (base (Extraction.ofText words sql).aliases r.qualifier) r.column := by
  rw [report, ofExtraction_ok_iff]
  simp only [Reference.resolves_iff]

lemma Lexeme.identifier?_quote (name : String) :
    (⟨.quotedName, (Identifier.quote (Identifier.normalize name)).toList⟩ : Lexeme).identifier? =
      some (Identifier.normalize name) := by
  simp [identifier?, isName, text, Identifier.normalize_quote]

/-- A quoted table and column is a statement that just they decide. -/
lemma Resolution.report_dotted_ok_iff (words : ClauseWords) (s : Snapshot) (table column : String) :
    (report words s (Lexeme.dotted (Identifier.normalize table)
      (Identifier.normalize column))).ok = true ↔
      s.tables.Has (Identifier.normalize table) (Identifier.normalize column) := by
  have hread : Extraction.ofText words (Lexeme.dotted (Identifier.normalize table)
      (Identifier.normalize column)) =
      ⟨.empty, [⟨Identifier.normalize table, Identifier.normalize column⟩]⟩ := by
    have htext := Lexeme.ofText_dotted (Identifier.normalize table) (Identifier.normalize column)
    rw [Lexeme.ofText] at htext
    rw [Extraction.ofText, htext, Extraction.ofLexemes,
      Reference.ofLexemes_pair rfl (Lexeme.identifier?_quote table)
        (Lexeme.identifier?_quote column)]
    rfl
  rw [report_ok_iff, hread]
  simp [base, OrderedMap.get?_empty]

/-! ### What is lost -/

lemma Table.columns_eq_nil_iff {t : Table} :
    t.columns = [] ↔ ∀ column, t.hasColumn column = false := by
  constructor
  · intro h column
    simp [Table.hasColumn, h]
  · intro h
    rw [List.eq_nil_iff_forall_not_mem]
    intro c hc
    have := h c.normalName
    rw [Table.hasColumn, List.any_eq_false] at this
    exact this c hc (by simp)

/-- The tables that are in both catalogs keep their columns just when no change removes one. -/
lemma Difference.forall_changed_iff {old new : Catalog} :
    (∀ ch ∈ (between old new).changed, ch.removedColumns = []) ↔
      ∀ name t u, old.get? name = some t → new.get? name = some u →
        t.normalNames ⊆ u.normalNames := by
  constructor
  · intro h name t u ht hu
    rcases hch : ofTables? name t u with _ | ch
    · exact (ofTables?_eq_none_iff.mp hch).le
    · have hremoved := h ch (mem_changed_iff.mpr ⟨name, t, u, ht, hu, hch⟩)
      rw [(ofTables?_eq_some_iff.mp hch).2] at hremoved
      exact columnsLost_eq_nil_iff.mp hremoved
  · intro h ch hch
    obtain ⟨name, t, u, ht, hu, hch⟩ := mem_changed_iff.mp hch
    rw [(ofTables?_eq_some_iff.mp hch).2]
    exact columnsLost_eq_nil_iff.mpr (h name t u ht hu)

lemma Difference.harmless_iff {old new : Catalog} :
    (between old new).Harmless old ↔
      ∀ table column, old.Has table column → new.Has table column := by
  constructor
  · rintro ⟨hcolumns, htables⟩ table column ⟨t, ht, hc⟩
    rcases hu : new.get? table with _ | u
    · have hremoved : table ∈ (between old new).removed := by
        rw [between, List.mem_filter]
        refine ⟨?_, ?_⟩
        · rw [← OrderedMap.contains_eq_true_iff, OrderedMap.contains, ht]
          rfl
        · rw [OrderedMap.contains, hu]
          rfl
      have := Table.columns_eq_nil_iff.mp (htables table hremoved t ht) column
      rw [hc] at this
      cases this
    · have hkept := forall_changed_iff.mp hcolumns table t u ht hu
      exact ⟨u, hu, Table.mem_normalNames.mp (hkept (Table.mem_normalNames.mpr hc))⟩
  · intro h
    refine ⟨forall_changed_iff.mpr fun name t u ht hu => ?_, fun name hname t ht => ?_⟩
    · intro column hc
      obtain ⟨u', hu', hc'⟩ := h name column ⟨t, ht, Table.mem_normalNames.mp hc⟩
      rw [hu] at hu'
      cases hu'
      exact Table.mem_normalNames.mpr hc'
    · refine Table.columns_eq_nil_iff.mpr fun column => Bool.eq_false_iff.mpr fun hc => ?_
      obtain ⟨u, hu, -⟩ := h name column ⟨t, ht, hc⟩
      rw [between, List.mem_filter, OrderedMap.contains, hu] at hname
      simp at hname

/-! ### Statements -/

/-- **The difference tells exactly when a statement can break.** It removes no column from a table
that stays and no table with columns, just when every statement that is known in the old snapshot
is known in the new one. -/
theorem Resolution.harmless_iff_forall_ok {old new : Snapshot} (hold : old.Built)
    (words : ClauseWords) :
    (Difference.between old.tables new.tables).Harmless old.tables ↔
      ∀ sql, (report words old sql).ok = true → (report words new sql).ok = true := by
  rw [Difference.harmless_iff]
  constructor
  · intro h sql hok
    rw [report_ok_iff] at hok ⊢
    exact fun r hr => h _ _ (hok r hr)
  · rintro h table column ⟨t, ht, hc⟩
    -- a table and a column that are known can be written as a statement
    obtain ⟨c, hnormal⟩ := hold.exists_normalize
    obtain ⟨rawTable, htable⟩ : ∃ raw, table = Identifier.normalize raw := by
      rw [hnormal, OrderedMap.get?_eq_some_iff] at ht
      obtain ⟨f, -, hf⟩ := Catalog.exists_of_mem_normalize ht
      exact ⟨f.1, congrArg Prod.fst hf⟩
    obtain ⟨rawColumn, hcolumn⟩ : ∃ raw, column = Identifier.normalize raw := by
      obtain ⟨col, -, hcol⟩ := List.any_eq_true.mp hc
      exact ⟨col.name, (of_decide_eq_true hcol).symm⟩
    subst htable hcolumn
    rw [← report_dotted_ok_iff words]
    exact h _ ((report_dotted_ok_iff words old _ _).mpr ⟨t, ht, hc⟩)

/-- Columns may be added and reordered. -/
theorem Resolution.ok_of_column_added :
    let new := Snapshot.take "app" none
      (.ofList [("users", ⟨[.ofName "name", .ofName "ID", .ofName "age"], [], []⟩)]) .epoch
    ∀ sql, (report Reference.clauseWords Gate.users sql).ok = true →
      (report Reference.clauseWords new sql).ok = true := by
  intro new
  have hchanged : (Difference.between Gate.users.tables new.tables).changed =
      [⟨"users", ["age"], []⟩] := by decide +kernel
  have hremoved : (Difference.between Gate.users.tables new.tables).removed = [] := by
    decide +kernel
  have hold : Gate.users.Built := .take ..
  refine (harmless_iff_forall_ok hold _).mp ⟨?_, ?_⟩
  · simp [hchanged]
  · simp [hremoved]

end QueryGate
