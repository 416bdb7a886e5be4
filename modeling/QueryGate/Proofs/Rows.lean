import QueryGate.Catalog.Rows
import QueryGate.Proofs.Maps

/-!
The rows of a listing, table by table. Rows are added one at a time to the tables that they name,
but a table ends up with its own rows in their order, whatever rows stand between them.
-/

namespace QueryGate

/-- What a listing says of one table. -/
def Table.gather (name : String) (columns : List ColumnRow) (primaryKeys : List KeyRow)
    (foreignKeys : List ForeignKeyRow) : Table where
  columns := (columns.filter (·.table = name)).map fun r =>
    ⟨r.column, some r.type, some (r.nullable.toList.map Char.toLower = "yes".toList)⟩
  primaryKey := (primaryKeys.filter (·.table = name)).map KeyRow.column
  foreignKeys := (foreignKeys.filter (·.table = name)).map fun r =>
    ⟨r.column, r.refTable, r.refColumn⟩

lemma ColumnRow.toColumn_eq (r : ColumnRow) : r.toColumn =
    ⟨r.column, some r.type, some (r.nullable.toList.map Char.toLower = "yes".toList)⟩ := by
  have hflag : Text.eqIgnoringAsciiCase r.nullable "YES" =
      decide (r.nullable.toList.map Char.toLower = "yes".toList) := by
    rw [Text.eqIgnoringAsciiCase, Bool.eq_iff_iff, beq_iff_eq, decide_eq_true_eq, Text.lowerAscii,
      Text.lowerAscii, String.ofList_inj]
    rfl
  rw [toColumn, hflag]
  rfl

lemma Table.columns_gather (name : String) (columns : List ColumnRow) (primaryKeys : List KeyRow)
    (foreignKeys : List ForeignKeyRow) : (gather name columns primaryKeys foreignKeys).columns =
      (columns.filter (·.table = name)).map ColumnRow.toColumn :=
  List.map_congr_left fun r _ => r.toColumn_eq.symm

namespace Catalog

variable {ρ : Type} {table : ρ → String} {add : ρ → Table → Table} {c : Catalog}

/-! ### Adding rows -/

lemma entries_extend (r : ρ) : (extend table add c r).entries =
    c.entries.map fun e => (e.1, if table r = e.1 then add r e.2 else e.2) := by
  refine List.map_congr_left fun e _ => ?_
  by_cases he : e.1 = table r
  · simp [he]
  · simp [he, Ne.symm he]

/-- Tables keep their places, and each takes the rows that name it. -/
lemma entries_foldl_extend (rows : List ρ) : (rows.foldl (extend table add) c).entries =
    c.entries.map fun e =>
      (e.1, (rows.filter (table · = e.1)).foldl (fun t r => add r t) e.2) := by
  induction rows generalizing c with
  | nil => simp
  | cons r rows ih =>
    rw [List.foldl_cons, ih, entries_extend, List.map_map]
    refine List.map_congr_left fun e _ => ?_
    by_cases he : table r = e.1
    · simp [he]
    · simp [he]

/-- Items that are added one by one to a list of a table are added together. -/
lemma foldl_append_one {α : Type} (more : List α → Table → Table) (hnil : ∀ t, more [] t = t)
    (happend : ∀ xs ys t, more ys (more xs t) = more (xs ++ ys) t) (f : ρ → α) (rows : List ρ)
    (t : Table) : rows.foldl (fun t r => more [f r] t) t = more (rows.map f) t := by
  induction rows generalizing t with
  | nil => exact (hnil t).symm
  | cons r rows ih =>
    rw [List.foldl_cons, ih, happend]
    rfl

lemma foldl_columns (rows : List ColumnRow) (t : Table) :
    rows.foldl (fun t r => { t with columns := t.columns ++ [r.toColumn] }) t =
      { t with columns := t.columns ++ rows.map ColumnRow.toColumn } :=
  foldl_append_one (fun cs t => { t with columns := t.columns ++ cs })
    (by simp) (by simp) ColumnRow.toColumn rows t

lemma foldl_primaryKey (rows : List KeyRow) (t : Table) :
    rows.foldl (fun t r => { t with primaryKey := t.primaryKey ++ [r.column] }) t =
      { t with primaryKey := t.primaryKey ++ rows.map KeyRow.column } :=
  foldl_append_one (fun ks t => { t with primaryKey := t.primaryKey ++ ks })
    (by simp) (by simp) KeyRow.column rows t

lemma foldl_foreignKeys (rows : List ForeignKeyRow) (t : Table) :
    rows.foldl (fun t r =>
        { t with foreignKeys := t.foreignKeys ++ [⟨r.column, r.refTable, r.refColumn⟩] }) t =
      { t with foreignKeys :=
          t.foreignKeys ++ rows.map fun r => ⟨r.column, r.refTable, r.refColumn⟩ } :=
  foldl_append_one (fun ks t => { t with foreignKeys := t.foreignKeys ++ ks })
    (by simp) (by simp) (fun r => ⟨r.column, r.refTable, r.refColumn⟩) rows t

/-! ### Listings -/

/-- Adds a column to a table. -/
def addColumn (r : ColumnRow) (t : Table) : Table := { t with columns := t.columns ++ [r.toColumn] }

variable {names : List String} {columns : List ColumnRow} {primaryKeys : List KeyRow}
  {foreignKeys : List ForeignKeyRow}

/-- The tables of a listing under the names that are listed. -/
def listed (names : List String) (columns : List ColumnRow) (primaryKeys : List KeyRow)
    (foreignKeys : List ForeignKeyRow) : Catalog :=
  let c : Catalog := .ofList (names.map (·, Table.empty))
  let c := columns.foldl (extend ColumnRow.table addColumn) c
  let c := primaryKeys.foldl (extend KeyRow.table fun r t =>
    { t with primaryKey := t.primaryKey ++ [r.column] }) c
  foreignKeys.foldl (extend ForeignKeyRow.table fun r t =>
    { t with foreignKeys := t.foreignKeys ++ [⟨r.column, r.refTable, r.refColumn⟩] }) c

lemma ofRows_eq : ofRows names columns primaryKeys foreignKeys =
    (listed names columns primaryKeys foreignKeys).normalize := rfl

/-- The names of a listing, each at the place where it comes first, with what is said of them. -/
def grouped (names : List String) (columns : List ColumnRow) (primaryKeys : List KeyRow)
    (foreignKeys : List ForeignKeyRow) : Catalog where
  entries := names.eraseDups.map fun name =>
    (name, .gather name columns primaryKeys foreignKeys)
  keys_nodup := by
    rw [List.map_map]
    exact (List.map_id names.eraseDups).symm ▸ OrderedMap.nodup_eraseDups names

lemma listed_eq_grouped : listed names columns primaryKeys foreignKeys =
    grouped names columns primaryKeys foreignKeys := by
  refine OrderedMap.eq_of_entries ?_
  rw [listed, entries_foldl_extend, entries_foldl_extend, entries_foldl_extend,
    OrderedMap.entries_ofList_map, List.map_map, List.map_map, List.map_map, grouped]
  refine List.map_congr_left fun name _ => ?_
  simp only [Function.comp_apply, addColumn, foldl_columns, foldl_primaryKey, foldl_foreignKeys,
    Table.empty, List.nil_append]
  rw [← Table.columns_gather name columns primaryKeys foreignKeys]
  rfl

lemma get?_grouped (name : String) : (grouped names columns primaryKeys foreignKeys).get? name =
    if name ∈ names then some (.gather name columns primaryKeys foreignKeys) else none := by
  rw [OrderedMap.get?, grouped, OrderedMap.lookup_map]
  simp only [List.mem_eraseDups]

lemma mem_keys_listed {name : String} :
    name ∈ (listed names columns primaryKeys foreignKeys).keys ↔ name ∈ names := by
  rw [listed_eq_grouped, ← not_iff_not, ← OrderedMap.get?_eq_none_iff, get?_grouped]
  simp

/-! ### Other orders -/

/-- Whether each listed table has the same rows in both lists, in the same order. -/
def AgreeOn (names : List String) (table : ρ → String) (rows rows' : List ρ) : Prop :=
  ∀ name ∈ names, rows.filter (table · = name) = rows'.filter (table · = name)

instance [DecidableEq ρ] (rows rows' : List ρ) : Decidable (AgreeOn names table rows rows') :=
  inferInstanceAs
    (Decidable (∀ name ∈ names, rows.filter (table · = name) = rows'.filter (table · = name)))

lemma agreeOn_filter (names : List String) (table : ρ → String) (rows : List ρ) :
    AgreeOn names table (rows.filter (table · ∈ names)) rows := by
  intro name hname
  rw [List.filter_filter]
  refine List.filter_congr fun r _ => ?_
  by_cases hr : table r = name
  · simp [hr, hname]
  · simp [hr]

variable {columns' : List ColumnRow} {primaryKeys' : List KeyRow}
  {foreignKeys' : List ForeignKeyRow}

lemma ofRows_congr (hcolumns : AgreeOn names ColumnRow.table columns columns')
    (hprimary : AgreeOn names KeyRow.table primaryKeys primaryKeys')
    (hforeign : AgreeOn names ForeignKeyRow.table foreignKeys foreignKeys') :
    ofRows names columns primaryKeys foreignKeys =
      ofRows names columns' primaryKeys' foreignKeys' := by
  have hgrouped : grouped names columns primaryKeys foreignKeys =
      grouped names columns' primaryKeys' foreignKeys' := by
    refine OrderedMap.eq_of_entries (List.map_congr_left fun name hname => ?_)
    have hlisted : name ∈ names := List.mem_eraseDups.mp hname
    rw [Table.gather, hcolumns name hlisted, hprimary name hlisted, hforeign name hlisted]
    rfl
  rw [ofRows_eq, ofRows_eq, listed_eq_grouped, listed_eq_grouped, hgrouped]

/-- **A listing is grouped by table**: its catalog is the normal form of the one that has the listed
names in the order in which they come first, each with the rows that name it. So rows may be moved
past rows of other tables, and rows of tables that are not listed may come and go. -/
theorem ofRows_grouping (names : List String) (columns : List ColumnRow)
    (primaryKeys : List KeyRow) (foreignKeys : List ForeignKeyRow) :
    ofRows names columns primaryKeys foreignKeys =
        (grouped names columns primaryKeys foreignKeys).normalize ∧
      (∀ columns' primaryKeys' foreignKeys', AgreeOn names ColumnRow.table columns columns' →
        AgreeOn names KeyRow.table primaryKeys primaryKeys' →
        AgreeOn names ForeignKeyRow.table foreignKeys foreignKeys' →
        ofRows names columns primaryKeys foreignKeys =
          ofRows names columns' primaryKeys' foreignKeys') ∧
      ofRows names (columns.filter (·.table ∈ names)) (primaryKeys.filter (·.table ∈ names))
          (foreignKeys.filter (·.table ∈ names)) =
        ofRows names columns primaryKeys foreignKeys := by
  refine ⟨?_, ?_, ?_⟩
  · rw [ofRows_eq, listed_eq_grouped]
  · intro columns' primaryKeys' foreignKeys' hcolumns hprimary hforeign
    exact ofRows_congr hcolumns hprimary hforeign
  · exact ofRows_congr (agreeOn_filter _ _ _) (agreeOn_filter _ _ _) (agreeOn_filter _ _ _)

/-- Rows of two tables in turns, and of a table that is not listed, against those of one table behind
those of the other. -/
theorem ofRows_grouping_interleaved :
    ofRows ["users", "Orders", "users"]
        [⟨"users", "id", "integer", "NO"⟩, ⟨"Orders", "id", "integer", "NO"⟩,
          ⟨"log", "at", "text", "YES"⟩, ⟨"users", "name", "text", "Yes"⟩]
        [⟨"log", "at"⟩, ⟨"users", "id"⟩] [] =
      ofRows ["users", "Orders", "users"]
        [⟨"Orders", "id", "integer", "NO"⟩, ⟨"users", "id", "integer", "NO"⟩,
          ⟨"users", "name", "text", "Yes"⟩]
        [⟨"users", "id"⟩] [] :=
  (ofRows_grouping _ _ _ _).2.1 _ _ _ (by decide) (by decide) (by decide)

example :
    (ofRows ["users", "Orders", "users"]
      [⟨"users", "id", "integer", "NO"⟩, ⟨"Orders", "id", "integer", "NO"⟩,
        ⟨"log", "at", "text", "YES"⟩, ⟨"users", "name", "text", "Yes"⟩]
      [⟨"log", "at"⟩, ⟨"users", "id"⟩] []).entries =
      [("users", ⟨[.ofType "id" "integer" false, .ofType "name" "text" true], ["id"], []⟩),
        ("orders", ⟨[.ofType "id" "integer" false], [], []⟩)] := by
  decide +kernel

end Catalog

end QueryGate
