import QueryGate.Ddl.Import
import QueryGate.Proofs.Maps

/-!
Keys of imported tables. Whether a column may be null is read off its own options alone, so a key
that the constraints of its table declare leaves it as it was; and a reference is recorded for no
more of its columns than it has referred columns.
-/

namespace QueryGate

/-- The column that refers and the table that it refers to. -/
def ForeignKey.link (k : ForeignKey) : String × String := (k.column, k.refTable)

namespace Ddl

variable {statements : List Statement} {name : String} {table : Table}

/-! ### Declarations -/

/-- The table that a statement declares under a name. -/
def Statement.declares? (name : String) : Statement → Option TableDeclaration
  | .createTable t => if tableName? t.name = some name then some t else none
  | .other => none

/-- The declaration that counts for a name: the last one. -/
def declaration? (statements : List Statement) (name : String) : Option TableDeclaration :=
  statements.reverse.findSome? (Statement.declares? name)

lemma get?_catalog (statements : List Statement) (name : String) :
    (catalog statements).get? name =
      (declaration? statements name).map TableDeclaration.toTable := by
  rw [catalog, OrderedMap.get?_ofList, ← List.filterMap_reverse, declaration?]
  induction statements.reverse with
  | nil => rfl
  | cons s ss ih =>
    cases s with
    | other => exact ih
    | createTable t =>
      rw [List.findSome?_cons, Statement.declares?]
      rcases hn : tableName? t.name with _ | n
      · have he : Statement.entry? (.createTable t) = none := by rw [Statement.entry?, hn]; rfl
        rw [List.filterMap_cons_none he, ih, if_neg (by simp)]
      · have he : Statement.entry? (.createTable t) = some (n, t.toTable) := by
          rw [Statement.entry?, hn]
          rfl
        rw [List.filterMap_cons_some he, OrderedMap.lookup_cons_eq, ih]
        by_cases h : name = n
        · rw [if_pos h, if_pos (congrArg some h.symm)]
          rfl
        · rw [if_neg h, if_neg fun e => h (Option.some.inj e).symm]

/-- An imported table is the table of a declaration. -/
lemma exists_declaration (h : (catalog statements).get? name = some table) :
    ∃ t, declaration? statements name = some t ∧ t.toTable = table := by
  rwa [get?_catalog, Option.map_eq_some_iff] at h

/-! ### Columns of keys -/

/-- A column whose own options rule out that it is null. -/
def ColumnDeclaration.IsRequired (c : ColumnDeclaration) : Prop :=
  .notNull ∈ c.options ∨ .primaryKey ∈ c.options

/-- A column, by its name in lower case, that an option or a constraint makes part of the key. -/
def TableDeclaration.HasKey (t : TableDeclaration) (column : String) : Prop :=
  (∃ c ∈ t.columns, .primaryKey ∈ c.options ∧ Text.lower c.name = column) ∨
    ∃ entries, .primaryKey entries ∈ t.constraints ∧ ∃ e ∈ entries, e.column? = some column

instance (c : ColumnDeclaration) : Decidable c.IsRequired := inferInstanceAs (Decidable (_ ∨ _))

namespace ColumnDeclaration

lemma nullable_eq_false_iff {c : ColumnDeclaration} : c.nullable = false ↔ c.IsRequired := by
  rw [nullable, List.all_eq_false]
  constructor
  · rintro ⟨o, ho, hne⟩
    by_cases hnull : o = .notNull
    · exact .inl (hnull ▸ ho)
    · have hkey : o = .primaryKey := by simpa [hnull] using hne
      exact .inr (hkey ▸ ho)
  · rintro (h | h)
    · exact ⟨_, h, by simp⟩
    · exact ⟨_, h, by simp⟩

lemma mem_keyColumns_iff {c : ColumnDeclaration} {column : String} :
    column ∈ c.keyColumns ↔ .primaryKey ∈ c.options ∧ Text.lower c.name = column := by
  rw [keyColumns, List.mem_map]
  constructor
  · rintro ⟨o, ho, he⟩
    obtain ⟨hmem, hkey⟩ := List.mem_filter.mp ho
    exact ⟨of_decide_eq_true hkey ▸ hmem, he⟩
  · rintro ⟨hmem, he⟩
    exact ⟨_, List.mem_filter.mpr ⟨hmem, decide_eq_true rfl⟩, he⟩

end ColumnDeclaration

lemma TableConstraint.mem_keyColumns_iff {c : TableConstraint} {column : String} :
    column ∈ c.keyColumns ↔ ∃ entries, c = .primaryKey entries ∧
      ∃ e ∈ entries, e.column? = some column := by
  cases c <;> simp [keyColumns]

namespace TableDeclaration

variable {t : TableDeclaration}

lemma mem_primaryKey_iff {column : String} : column ∈ t.toTable.primaryKey ↔ t.HasKey column := by
  simp only [toTable, List.mem_append, List.mem_flatMap, ColumnDeclaration.mem_keyColumns_iff,
    TableConstraint.mem_keyColumns_iff, HasKey]
  refine or_congr Iff.rfl ⟨?_, ?_⟩
  · rintro ⟨_, hc, entries, rfl, he⟩
    exact ⟨entries, hc, he⟩
  · rintro ⟨entries, hc, he⟩
    exact ⟨_, hc, entries, rfl, he⟩

/-- A column is recorded in its place, as required just when its own options say so. -/
lemma forall₂_columns (t : TableDeclaration) :
    List.Forall₂ (fun d c => c.name = d.name ∧ (c.nullable? = some false ↔ d.IsRequired))
      t.columns t.toTable.columns := by
  rw [toTable, List.forall₂_map_right_iff, List.forall₂_same]
  intro d _
  refine ⟨rfl, ?_⟩
  rw [← ColumnDeclaration.nullable_eq_false_iff, ColumnDeclaration.toColumn, Column.ofType,
    Option.some.injEq]

instance (column : String) : Decidable (t.HasKey column) :=
  decidable_of_iff (column ∈ t.toTable.primaryKey) mem_primaryKey_iff

lemma keys_required_iff :
    (∀ c ∈ t.toTable.columns, Text.lower c.name ∈ t.toTable.primaryKey →
        c.nullable? = some false) ↔
      ∀ d ∈ t.columns, t.HasKey (Text.lower d.name) → d.IsRequired := by
  have hcolumns : t.toTable.columns = t.columns.map ColumnDeclaration.toColumn := rfl
  simp only [hcolumns, List.forall_mem_map, mem_primaryKey_iff,
    ← ColumnDeclaration.nullable_eq_false_iff, ColumnDeclaration.toColumn, Column.ofType,
    Option.some.injEq]

end TableDeclaration

/-- **When the columns of a key are recorded as required.** An imported table has the key columns
that options and constraints declare, and each of them is recorded as required just when it is
declared so itself. -/
theorem key_columns_required_iff (h : (catalog statements).get? name = some table) :
    ∃ t, declaration? statements name = some t ∧
      (∀ column, column ∈ table.primaryKey ↔ t.HasKey column) ∧
      List.Forall₂ (fun d c => c.name = d.name ∧ (c.nullable? = some false ↔ d.IsRequired))
        t.columns table.columns ∧
      ((∀ c ∈ table.columns, Text.lower c.name ∈ table.primaryKey → c.nullable? = some false) ↔
        ∀ d ∈ t.columns, t.HasKey (Text.lower d.name) → d.IsRequired) := by
  obtain ⟨t, ht, rfl⟩ := exists_declaration h
  exact ⟨t, ht, fun _ => TableDeclaration.mem_primaryKey_iff, t.forall₂_columns,
    TableDeclaration.keys_required_iff⟩

/-- A key of two columns: one has an option of its own and is named again, the other is declared not
to be null. -/
def compositeKey : List Statement :=
  [.createTable ⟨[.name "shop", .name "Lines"],
    [⟨"id", "INT", [.primaryKey]⟩, ⟨"Place", "INT", [.other, .notNull]⟩, ⟨"note", "TEXT", []⟩],
    [.primaryKey [.column "ID", .path ["lines", "place"], .expression]]⟩]

theorem compositeKey_required : ∃ table, (catalog compositeKey).get? "lines" = some table ∧
    table.primaryKey = ["id", "id", "place"] ∧
    ∀ c ∈ table.columns, Text.lower c.name ∈ table.primaryKey → c.nullable? = some false := by
  obtain ⟨table, htable, hkey⟩ : ∃ table, (catalog compositeKey).get? "lines" = some table ∧
      table.primaryKey = ["id", "id", "place"] := by
    refine ⟨_, rfl, ?_⟩
    decide +kernel
  obtain ⟨t, ht, -, -, hiff⟩ := key_columns_required_iff htable
  refine ⟨table, htable, hkey, hiff.mpr ?_⟩
  have hall : ∀ u ∈ declaration? compositeKey "lines", ∀ d ∈ u.columns,
      u.HasKey (Text.lower d.name) → d.IsRequired := by decide +kernel
  exact hall t ht

/-- A column that only a constraint makes the key of its table. -/
def constraintKey : List Statement :=
  [.createTable ⟨[.name "t"], [⟨"id", "INT", []⟩], [.primaryKey [.column "id"]]⟩]

/-- Such a column may be null. -/
theorem exists_nullable_key : ¬ ∀ (statements : List Statement) (name : String) (table : Table),
    (catalog statements).get? name = some table →
      ∀ c ∈ table.columns, Text.lower c.name ∈ table.primaryKey → c.nullable? = some false := by
  intro h
  have hkey := h constraintKey "t" _ rfl
  revert hkey
  decide +kernel

/-! ### References -/

/-- A reference with the columns that refer, which are `own` when it lists none. -/
def ReferenceClause.placed (own : List String) (r : ReferenceClause) : ReferenceClause :=
  { r with columns := if r.columns.isEmpty then own else r.columns }

/-- What a reference to a table with a name declares: a link from each column that refers. -/
def ReferenceClause.links (r : ReferenceClause) : List (String × String) :=
  match tableName? r.table with
  | none => []
  | some table => r.columns.map fun c => (Text.lower c, table)

/-- The reference of an option of the column `own`. -/
def ColumnOption.reference? (own : String) : ColumnOption → Option ReferenceClause
  | .references r => some (r.placed [own])
  | _ => none

def TableConstraint.reference? : TableConstraint → Option ReferenceClause
  | .foreignKey r => some r
  | _ => none

/-- The references of a table, each with the columns that refer: those of its columns in the order
of these, and then those of its constraints. -/
def TableDeclaration.references (t : TableDeclaration) : List ReferenceClause :=
  (t.columns.flatMap fun c => c.options.filterMap (ColumnOption.reference? c.name)) ++
    t.constraints.filterMap TableConstraint.reference?

lemma map_fst_zip_eq_take {α β : Type} (xs : List α) (ys : List β) :
    (xs.zip ys).map Prod.fst = xs.take ys.length := by
  induction xs generalizing ys with
  | nil => simp
  | cons x xs ih =>
    cases ys with
    | nil => rfl
    | cons y ys => rw [List.zip_cons_cons, List.map_cons, ih, List.length_cons, List.take_succ_cons]

/-- Nothing is missing of lists that are cut off just when each of them is short enough. -/
lemma flatMap_take_eq_iff {α β : Type} (f : α → List β) (n : α → Nat) (xs : List α) :
    (xs.flatMap fun x => (f x).take (n x)) = xs.flatMap f ↔ ∀ x ∈ xs, (f x).length ≤ n x := by
  have hle (ys : List α) :
      (ys.flatMap fun x => (f x).take (n x)).length ≤ (ys.flatMap f).length := by
    induction ys with
    | nil => exact Nat.le_refl _
    | cons y ys ih =>
      rw [List.flatMap_cons, List.flatMap_cons, List.length_append, List.length_append]
      exact Nat.add_le_add (List.length_take_le' ..) ih
  refine ⟨fun h => ?_, fun h => List.flatMap_congr fun x hx => List.take_of_length_le (h x hx)⟩
  induction xs with
  | nil => simp
  | cons x xs ih =>
    rw [List.flatMap_cons, List.flatMap_cons] at h
    have hlen := congrArg List.length h
    rw [List.length_append, List.length_append, List.length_take] at hlen
    have hrest := hle xs
    have hx : (f x).length ≤ n x := by omega
    rw [List.take_of_length_le hx, List.append_cancel_left_eq] at h
    exact List.forall_mem_cons.mpr ⟨hx, ih h⟩

namespace ReferenceClause

lemma placed_columns (r : ReferenceClause) : r.placed r.columns = r := by
  rw [placed, ite_self]

/-- The links that are recorded of a reference: the first ones, as many as it has referred
columns. -/
def recorded (r : ReferenceClause) : List (String × String) := r.links.take r.referred.length

lemma map_link_foreignKeys (own : List String) (r : ReferenceClause) :
    (r.foreignKeys own).map ForeignKey.link = (r.placed own).recorded := by
  rw [foreignKeys, recorded, links, placed]
  rcases tableName? r.table with _ | table
  · simp
  · have hlink : ForeignKey.link ∘ (fun p : String × String =>
        (⟨Text.lower p.1, table, Text.lower p.2⟩ : ForeignKey)) =
          (fun c => (Text.lower c, table)) ∘ Prod.fst := rfl
    simp only [List.map_map, hlink]
    rw [← List.map_map, map_fst_zip_eq_take, List.map_take]

lemma length_links_le_iff {r : ReferenceClause} :
    r.links.length ≤ r.referred.length ↔
      ((tableName? r.table).isSome = true → r.columns.length ≤ r.referred.length) := by
  rw [links]
  rcases tableName? r.table with _ | table <;> simp

end ReferenceClause

lemma ColumnDeclaration.map_link_foreignKeys (c : ColumnDeclaration) :
    c.foreignKeys.map ForeignKey.link =
      (c.options.filterMap (ColumnOption.reference? c.name)).flatMap ReferenceClause.recorded := by
  rw [foreignKeys, List.map_flatMap, List.filterMap_eq_flatMap_toList, List.flatMap_assoc]
  refine List.flatMap_congr fun o _ => ?_
  cases o with
  | references r =>
    rw [ReferenceClause.map_link_foreignKeys]
    exact (List.flatMap_singleton ..).symm
  | _ => rfl

lemma TableConstraint.map_link_foreignKeys (c : TableConstraint) :
    c.foreignKeys.map ForeignKey.link =
      c.reference?.toList.flatMap ReferenceClause.recorded := by
  cases c with
  | foreignKey r =>
    have h := ReferenceClause.map_link_foreignKeys r.columns r
    rw [ReferenceClause.placed_columns] at h
    exact h.trans (List.flatMap_singleton ..).symm
  | _ => rfl

/-- An imported table has the recorded links of its references, one reference after another. -/
lemma TableDeclaration.map_link_foreignKeys (t : TableDeclaration) :
    t.toTable.foreignKeys.map ForeignKey.link =
      t.references.flatMap ReferenceClause.recorded := by
  rw [toTable, references, List.map_append, List.flatMap_append, List.map_flatMap,
    List.map_flatMap, List.flatMap_assoc, List.filterMap_eq_flatMap_toList, List.flatMap_assoc]
  simp only [ColumnDeclaration.map_link_foreignKeys, TableConstraint.map_link_foreignKeys]

/-- **When no reference is lost.** The references of a table are recorded one after another, each
from its first columns; they are recorded from all of their columns just when none of them, to a
table with a name, has fewer referred columns than columns that refer. -/
theorem references_recorded_iff (h : (catalog statements).get? name = some table) :
    ∃ t, declaration? statements name = some t ∧
      (table.foreignKeys.map ForeignKey.link =
        t.references.flatMap fun r => r.links.take r.referred.length) ∧
      (table.foreignKeys.map ForeignKey.link = t.references.flatMap ReferenceClause.links ↔
        ∀ r ∈ t.references, (tableName? r.table).isSome = true →
          r.columns.length ≤ r.referred.length) := by
  obtain ⟨t, ht, rfl⟩ := exists_declaration h
  refine ⟨t, ht, t.map_link_foreignKeys, ?_⟩
  rw [t.map_link_foreignKeys]
  refine (flatMap_take_eq_iff ..).trans (forall₂_congr fun r _ => ?_)
  exact ReferenceClause.length_links_le_iff

/-- References of a column and of two constraints; the last one is to a table without a name. -/
def itemReferences : List Statement :=
  [.createTable ⟨[.name "Lines"],
    [⟨"Item", "INT", [.notNull, .references ⟨[], [.name "shop", .name "Items"], ["ID"]⟩]⟩,
      ⟨"shelf", "INT", [.primaryKey]⟩],
    [.other, .foreignKey ⟨["shelf", "Item"], [.name "stock"], ["shelf", "item", "day"]⟩,
      .foreignKey ⟨["shelf"], [.call "table_of(1)"], []⟩]⟩]

theorem itemReferences_recorded : ∃ table, (catalog itemReferences).get? "lines" = some table ∧
    table.foreignKeys.map ForeignKey.link =
      [("item", "items"), ("shelf", "stock"), ("item", "stock")] := by
  obtain ⟨table, htable⟩ : ∃ table, (catalog itemReferences).get? "lines" = some table := ⟨_, rfl⟩
  obtain ⟨t, ht, -, hiff⟩ := references_recorded_iff htable
  have hall : ∀ u ∈ declaration? itemReferences "lines",
      (∀ r ∈ u.references, (tableName? r.table).isSome = true →
        r.columns.length ≤ r.referred.length) ∧
      u.references.flatMap ReferenceClause.links =
        [("item", "items"), ("shelf", "stock"), ("item", "stock")] := by decide +kernel
  obtain ⟨hlong, hlinks⟩ := hall t ht
  exact ⟨table, htable, (hiff.mpr hlong).trans hlinks⟩

/-- A column that refers to a table without saying to which of its columns. -/
def bareReference : List Statement :=
  [.createTable ⟨[.name "u"], [⟨"id", "INT", [.primaryKey]⟩], []⟩,
    .createTable ⟨[.name "t"], [⟨"a", "INT", [.references ⟨[], [.name "u"], []⟩]⟩], []⟩]

/-- Such a reference is lost. -/
theorem exists_reference_lost : ¬ ∀ (statements : List Statement) (name : String) (table : Table)
    (t : TableDeclaration), (catalog statements).get? name = some table →
      declaration? statements name = some t →
        table.foreignKeys.map ForeignKey.link = t.references.flatMap ReferenceClause.links := by
  intro h
  have hlinks := h bareReference "t" _ _ rfl rfl
  revert hlinks
  decide +kernel

end Ddl

end QueryGate
