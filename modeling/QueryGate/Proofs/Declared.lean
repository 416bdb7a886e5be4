import QueryGate.Proofs.BareNames
import QueryGate.Proofs.Drift
import QueryGate.Proofs.Rollback
import QueryGate.Proofs.Rows

/-!
Columns that a database lists, and statements that name them. The names of a listing are not in
quotes, but they are read as if they stood in a statement. That is right for bare names only.
-/

namespace QueryGate

namespace Catalog

variable {c : Catalog} {name column : String} {names : List String} {columns : List ColumnRow}
  {primaryKeys : List KeyRow} {foreignKeys : List ForeignKeyRow}

lemma has_listed_iff : (listed names columns primaryKeys foreignKeys).Has name column ↔
    name ∈ names ∧ ∃ r ∈ columns, r.table = name ∧ Identifier.normalize r.column = column := by
  have hcolumn : (Table.gather name columns primaryKeys foreignKeys).hasColumn column = true ↔
      ∃ r ∈ columns, r.table = name ∧ Identifier.normalize r.column = column := by
    rw [Table.hasColumn, Table.columns_gather, List.any_map, List.any_eq_true]
    simp only [List.mem_filter, Function.comp_apply, decide_eq_true_eq, and_assoc]
    rfl
  rw [listed_eq_grouped, Has, get?_grouped, ← hcolumn]
  by_cases hname : name ∈ names
  · simp [hname]
  · simp [hname]

/-! ### Names in normal form -/

/-- A column is found in the normal form of a catalog under the only name that has its normal
form. -/
lemma has_normalize_iff {key : String} (hunique : ∀ a ∈ c.keys, ∀ b ∈ c.keys,
      Identifier.normalize a = key → Identifier.normalize b = key → a = b) :
    c.normalize.Has key column ↔ ∃ a, Identifier.normalize a = key ∧ c.Has a column := by
  constructor
  · rintro ⟨t, ht, hc⟩
    obtain ⟨⟨a, u⟩, hu, he⟩ := exists_of_mem_normalize (OrderedMap.get?_eq_some_iff.mp ht)
    cases he
    rw [Table.hasColumn_normalize] at hc
    exact ⟨a, rfl, u, OrderedMap.get?_eq_some_iff.mpr hu, hc⟩
  · rintro ⟨a, rfl, u, hu, hc⟩
    have hmem := OrderedMap.get?_eq_some_iff.mp hu
    have hkey : Identifier.normalize a ∈ c.normalize.keys :=
      mem_keys_normalize.mpr ⟨a, List.mem_map_of_mem hmem, rfl⟩
    rw [← OrderedMap.contains_eq_true_iff, OrderedMap.contains, Option.isSome_iff_exists] at hkey
    obtain ⟨t, ht⟩ := hkey
    obtain ⟨⟨b, v⟩, hv, he⟩ := exists_of_mem_normalize (OrderedMap.get?_eq_some_iff.mp ht)
    obtain ⟨hname, rfl⟩ := Prod.mk.inj he
    obtain rfl := hunique a (List.mem_map_of_mem hmem) b (List.mem_map_of_mem hv) rfl hname.symm
    rw [OrderedMap.get?_eq_some_iff.mpr hv, Option.some.injEq] at hu
    rw [hu] at ht
    exact ⟨_, ht, by rw [Table.hasColumn_normalize, hc]⟩

/-- A snapshot takes the normal form of the names of a listing twice. -/
lemma has_ofRows_normalize_iff {key : String} (hunique : ∀ a ∈ names, ∀ b ∈ names,
      Identifier.normalize (Identifier.normalize a) = key →
        Identifier.normalize (Identifier.normalize b) = key → a = b) :
    (ofRows names columns primaryKeys foreignKeys).normalize.Has key column ↔
      ∃ a ∈ names, Identifier.normalize (Identifier.normalize a) = key ∧
        ∃ r ∈ columns, r.table = a ∧ Identifier.normalize r.column = column := by
  have honce (a : String) (ha : Identifier.normalize (Identifier.normalize a) = key) :
      (listed names columns primaryKeys foreignKeys).normalize.Has (Identifier.normalize a) column ↔
        ∃ b, Identifier.normalize b = Identifier.normalize a ∧
          (listed names columns primaryKeys foreignKeys).Has b column := by
    refine has_normalize_iff fun b hb d hd hba hda => ?_
    exact hunique b (mem_keys_listed.mp hb) d (mem_keys_listed.mp hd) (by rw [hba, ha])
      (by rw [hda, ha])
  rw [ofRows_eq, has_normalize_iff]
  · constructor
    · rintro ⟨b, hb, hc⟩
      have hkey : b ∈ (listed names columns primaryKeys foreignKeys).normalize.keys := by
        obtain ⟨t, ht, -⟩ := hc
        exact List.mem_map_of_mem (OrderedMap.get?_eq_some_iff.mp ht)
      obtain ⟨a, -, rfl⟩ := mem_keys_normalize.mp hkey
      obtain ⟨d, hd, hc⟩ := (honce a hb).mp hc
      rw [has_listed_iff] at hc
      exact ⟨d, hc.1, by rw [hd, hb], hc.2⟩
    · rintro ⟨a, ha, hkey, hc⟩
      exact ⟨_, hkey, (honce a hkey).mpr ⟨a, rfl, has_listed_iff.mpr ⟨ha, hc⟩⟩⟩
  · intro b hb d hd hbk hdk
    obtain ⟨b', hb', rfl⟩ := mem_keys_normalize.mp hb
    obtain ⟨d', hd', rfl⟩ := mem_keys_normalize.mp hd
    rw [hunique b' (mem_keys_listed.mp hb') d' (mem_keys_listed.mp hd') hbk hdk]

end Catalog

/-! ### Statements -/

namespace Lexeme

open Identifier

/-- A statement that selects a column of a table, both in quotes. -/
def selecting (table column : String) : String :=
  "SELECT " ++ dotted table column ++ " FROM " ++ quote table

lemma ofText_selecting (table column : String) :
    ofText (selecting table column) =
      [⟨.word, "SELECT".toList⟩, ⟨.quotedName, (quote table).toList⟩, ⟨.dot, ['.']⟩,
        ⟨.quotedName, (quote column).toList⟩, ⟨.word, "FROM".toList⟩,
        ⟨.quotedName, (quote table).toList⟩] := by
  have htext : (selecting table column).toList = "SELECT".toList ++ ' ' ::
      ((dotted table column).toList ++ ' ' :: ("FROM".toList ++ ' ' ::
        ((quote table).toList ++ []))) := by
    simp [selecting]
  have hblank : Text.isBlank ' ' = true := by decide
  have hspace : ¬ isWordPart ' ' = true := by decide
  rw [ofText, Layout.ofText, htext, lexemes_word (by decide) hspace,
    Layout.lexemes_cons_blank hblank, lexemes_dotted _ _ (by simp),
    Layout.lexemes_cons_blank hblank, lexemes_word (by decide) hspace,
    Layout.lexemes_cons_blank hblank, lexemes_quote _ (by simp), lexemes_nil]

end Lexeme

/-- The statement has one table without an alias and one reference. -/
lemma Extraction.ofText_selecting (words : ClauseWords) (table column : String) :
    ofText words (Lexeme.selecting table column) =
      ⟨.empty, [⟨Text.lower table, Text.lower column⟩]⟩ := by
  have hread := Lexeme.ofText_selecting table column
  rw [Lexeme.ofText] at hread
  have hselect (keyword : String) (h : keyword = "FROM" ∨ keyword = "JOIN") :
      (⟨.word, "SELECT".toList⟩ : Lexeme).isKeyword keyword = false := by
    rcases h with rfl | rfl <;> decide +kernel
  have hfrom : (⟨.word, "FROM".toList⟩ : Lexeme).isKeyword "FROM" = true := by decide +kernel
  have hdot (keyword : String) : (⟨.dot, ['.']⟩ : Lexeme).isKeyword keyword = false := rfl
  have htable : Source.readList words [⟨.quotedName, (Identifier.quote table).toList⟩] =
      [⟨Text.lower table, none⟩] := by
    have hone : Source.read? words [⟨.quotedName, (Identifier.quote table).toList⟩] =
        some (⟨Text.lower table, none⟩, []) := by
      rw [Source.read?, Lexeme.identifier?_quoted]
      rfl
    rw [Source.readList_of_some hone]
  rw [ofText, hread, ofLexemes]
  simp only [Source.ofLexemes, hselect _ (.inl rfl), hselect _ (.inr rfl), hfrom, hdot,
    Lexeme.isKeyword_quotedName, htable]
  rw [Reference.ofLexemes_skip, Reference.ofLexemes_pair rfl (Lexeme.identifier?_quoted table)
    (Lexeme.identifier?_quoted column)]
  · rfl
  · rintro d b ys q c he hd - -
    cases he
    cases hd

namespace Resolution

lemma report_selecting_ok_iff (words : ClauseWords) (s : Snapshot) (table column : String) :
    (report words s (Lexeme.selecting table column)).ok = true ↔
      s.tables.Has (Text.lower table) (Text.lower column) := by
  rw [report_ok_iff, Extraction.ofText_selecting]
  simp [base, OrderedMap.get?_empty]

lemma report_listed_ok_iff (words : ClauseWords) (name : String) (dialect? : Option String)
    (now : Timestamp) {names : List String} (columns : List ColumnRow) (primaryKeys : List KeyRow)
    (foreignKeys : List ForeignKeyRow) {table : String} (column : String)
    (hnames : ∀ a ∈ names, ∀ b ∈ names, Text.lower a = Text.lower b → a = b)
    (htable : table ∈ names) (hothers : ∀ a ∈ names, a ≠ table → Identifier.IsBare a) :
    (report words (.take name dialect? (.ofRows names columns primaryKeys foreignKeys) now)
        (Lexeme.selecting table column)).ok = true ↔
      Identifier.IsBare table ∧ ∃ d ∈ columns, d.table = table ∧
        Identifier.normalize d.column = Text.lower column := by
  have honly : ∀ a ∈ names,
      Identifier.normalize (Identifier.normalize a) = Text.lower table → a = table := by
    intro a ha he
    by_contra hne
    rw [Identifier.normalize_normalize_eq_lower_iff.mpr (hothers a ha hne)] at he
    exact hne (hnames a ha table htable he)
  rw [report_selecting_ok_iff, Snapshot.take, Catalog.has_ofRows_normalize_iff]
  · constructor
    · rintro ⟨a, ha, he, hc⟩
      obtain rfl := honly a ha he
      exact ⟨Identifier.normalize_normalize_eq_lower_iff.mp he, hc⟩
    · rintro ⟨hbare, hc⟩
      exact ⟨table, htable, Identifier.normalize_normalize_eq_lower_iff.mpr hbare, hc⟩
  · intro a ha b hb hea heb
    rw [honly a ha hea, honly b hb heb]

/-- **When a listed column is known by its own name.** Let no two listed tables differ in case
alone, and all others than one have bare names. A statement that puts this table and one of its
columns in quotes is known if both names are bare; in general it is known just when the table's
name is bare and some column of the table has a normal form that is the column's lower case. -/
theorem selecting_ok_iff (words : ClauseWords) (name : String) (dialect? : Option String)
    (now : Timestamp) {names : List String} (columns : List ColumnRow) (primaryKeys : List KeyRow)
    (foreignKeys : List ForeignKeyRow)
    (hnames : ∀ a ∈ names, ∀ b ∈ names, Text.lower a = Text.lower b → a = b)
    {r : ColumnRow} (hrow : r ∈ columns) (htable : r.table ∈ names)
    (hothers : ∀ a ∈ names, a ≠ r.table → Identifier.IsBare a) :
    let s := Snapshot.take name dialect? (.ofRows names columns primaryKeys foreignKeys) now
    let ok := (report words s (Lexeme.selecting r.table r.column)).ok
    (Identifier.IsBare r.table → Identifier.IsBare r.column → ok = true) ∧
      (ok = true ↔ Identifier.IsBare r.table ∧
        ∃ d ∈ columns, d.table = r.table ∧
          Identifier.normalize d.column = Text.lower r.column) := by
  intro s ok
  have hok := report_listed_ok_iff words name dialect? now columns primaryKeys foreignKeys r.column
    hnames htable hothers
  exact ⟨fun ht hc => hok.mpr ⟨ht, r, hrow, rfl, hc.normalize_eq⟩, hok⟩

/-- One table whose columns are bare but for the last. -/
def mixedColumns : List ColumnRow :=
  [⟨"Users", "ID", "integer", "NO"⟩, ⟨"Users", "a \"b\" c", "text", "YES"⟩,
    ⟨"Users", " name", "text", "YES"⟩]

/-- Quotes and blanks inside a name do no harm, a blank before it does. -/
theorem selecting_mixedColumns :
    let s := Snapshot.take "crm" none (.ofRows ["Users", "Orders"] mixedColumns [] []) .epoch
    (report Reference.clauseWords s (Lexeme.selecting "Users" "a \"b\" c")).ok = true ∧
      (report Reference.clauseWords s (Lexeme.selecting "Users" " name")).ok = false := by
  have hnames : ∀ a ∈ ["Users", "Orders"], ∀ b ∈ ["Users", "Orders"],
      Text.lower a = Text.lower b → a = b := by decide +kernel
  have hothers : ∀ a ∈ ["Users", "Orders"], a ≠ "Users" → Identifier.IsBare a := by
    decide +kernel
  constructor
  · have hrow : ⟨"Users", "a \"b\" c", "text", "YES"⟩ ∈ mixedColumns := by decide
    exact (selecting_ok_iff Reference.clauseWords "crm" none .epoch mixedColumns [] [] hnames hrow
      (by decide) hothers).1 (by decide +kernel) (by decide +kernel)
  · have hrow : ⟨"Users", " name", "text", "YES"⟩ ∈ mixedColumns := by decide
    refine Bool.eq_false_iff.mpr fun hok => ?_
    have hknown := (selecting_ok_iff Reference.clauseWords "crm" none .epoch mixedColumns [] []
      hnames hrow (by decide) hothers).2.mp hok
    revert hknown
    decide +kernel

/-- A table is listed under a name that begins with a blank, and no statement can name it. -/
theorem exists_listed_unknown : ¬ ∀ (words : ClauseWords) (name : String)
    (dialect? : Option String) (now : Timestamp) (names : List String) (columns : List ColumnRow)
    (primaryKeys : List KeyRow) (foreignKeys : List ForeignKeyRow),
    (∀ a ∈ names, ∀ b ∈ names, Text.lower a = Text.lower b → a = b) →
      ∀ r ∈ columns, r.table ∈ names →
        (report words (.take name dialect? (.ofRows names columns primaryKeys foreignKeys) now)
          (Lexeme.selecting r.table r.column)).ok = true := by
  intro h
  have hnames : ∀ a ∈ [" users"], ∀ b ∈ [" users"], Text.lower a = Text.lower b → a = b := by simp
  have hok := h Reference.clauseWords "crm" none .epoch [" users"]
    [⟨" users", "id", "integer", "NO"⟩] [] [] hnames _ List.mem_cons_self List.mem_cons_self
  rw [report_listed_ok_iff _ _ _ _ _ _ _ _ hnames List.mem_cons_self (by simp)] at hok
  exact absurd hok.1 (by decide +kernel)

end Resolution

end QueryGate
