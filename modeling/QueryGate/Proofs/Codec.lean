import QueryGate.Proofs.JsonText
import QueryGate.Proofs.Maps
import QueryGate.Proofs.Results
import QueryGate.Proofs.Timestamps
import QueryGate.Snapshot.Document

/-!
Catalogs and snapshots come back from their documents. A field that is left out is read as absent,
and none is written twice.
-/

namespace QueryGate

namespace Json

lemma arePlain_map {α : Type} {f : α → Json} {as : List α} (h : ∀ a ∈ as, (f a).isPlain = true) :
    arePlain (as.map f) = true := by
  induction as with
  | nil => rfl
  | cons a as ih =>
    rw [List.map_cons, arePlain, h a List.mem_cons_self,
      ih fun b hb => h b (List.mem_cons_of_mem _ hb)]
    rfl

lemma membersArePlain_map {α : Type} {f : α → String × Json} {as : List α}
    (h : ∀ a ∈ as, (f a).2.isPlain = true) : membersArePlain (as.map f) = true := by
  induction as with
  | nil => rfl
  | cons a as ih =>
    rw [List.map_cons, membersArePlain, h a List.mem_cons_self,
      ih fun b hb => h b (List.mem_cons_of_mem _ hb)]
    rfl

lemma asStrings_strings (ss : List String) : asStrings (.array (ss.map .string)) = .ok ss := by
  rw [asStrings, mapM_eq_ok_iff, List.forall₂_map_left_iff, List.forall₂_same]
  exact fun s _ => rfl

end Json

/-! ### Columns and keys -/

namespace Column

lemma isPlain_toJson (c : Column) : c.toJson.isPlain = true := by
  obtain ⟨name, _ | type, _ | nullable⟩ := c <;>
    simp [toJson, Json.optional, Json.isPlain, Json.membersArePlain]

lemma isFreeForm_toJson (c : Column) {limit : Nat} (h : 0 < limit) :
    c.toJson.isFreeForm limit = true := by
  obtain ⟨name, _ | type, _ | nullable⟩ := c <;>
    simp [toJson, Json.optional, Json.isFreeForm, Json.depth, Json.depthMembers, Json.inRange,
      Json.inRangeMembers, Json.isText, Json.isTextMembers] <;> omega

lemma ofJson_toJson (c : Column) {limit : Nat} (h : 0 < limit) :
    ofJson limit c.toJson = .ok c := by
  have hfree := isFreeForm_toJson c h
  obtain ⟨name, _ | type, _ | nullable⟩ := c <;> simp [ofJson, hfree] <;> rfl

lemma listOfJson_map (cs : List Column) {limit : Nat} (h : 0 < limit) :
    listOfJson limit (.array (cs.map toJson)) = .ok cs := by
  rw [listOfJson, mapM_eq_ok_iff, List.forall₂_map_left_iff, List.forall₂_same]
  exact fun c _ => ofJson_toJson c h

end Column

namespace ForeignKey

lemma isPlain_toJson (k : ForeignKey) : k.toJson.isPlain = true := by
  simp [toJson, Json.isPlain, Json.membersArePlain]

lemma ofJson_toJson (k : ForeignKey) : ofJson k.toJson = .ok k := rfl

lemma listOfJson_map (ks : List ForeignKey) : listOfJson (.array (ks.map toJson)) = .ok ks := by
  rw [listOfJson, mapM_eq_ok_iff, List.forall₂_map_left_iff, List.forall₂_same]
  exact fun k _ => ofJson_toJson k

end ForeignKey

/-! ### Tables -/

namespace Table

lemma isPlain_toJson (t : Table) : t.toJson.isPlain = true := by
  have hcolumns : Json.arePlain (t.columns.map Column.toJson) = true :=
    Json.arePlain_map fun c _ => c.isPlain_toJson
  have hprimary : Json.arePlain (t.primaryKey.map Json.string) = true :=
    Json.arePlain_map fun _ _ => rfl
  have hforeign : Json.arePlain (t.foreignKeys.map ForeignKey.toJson) = true :=
    Json.arePlain_map fun k _ => k.isPlain_toJson
  rw [toJson, optionalList, optionalList]
  split_ifs <;> simp [Json.isPlain, Json.membersArePlain, hcolumns, hprimary, hforeign]

lemma take_columns {limit : Nat} (h : 0 < limit) (cs : List Column) :
    Fields.take limit {} ("columns", .array (cs.map Column.toJson)) =
      .ok { columns? := some cs } := by
  simp [Fields.take, Json.once, Column.listOfJson_map cs h]

lemma foldlM_primaryKey (limit : Nat) {f : Fields} (hf : f.primaryKey? = none)
    (ss : List String) :
    ∃ met, (optionalList "primaryKey" (ss.map .string)).foldlM (Fields.take limit) f =
      .ok { f with primaryKey? := met } ∧ met.getD [] = ss := by
  rcases ss with _ | ⟨s, ss⟩
  · exact ⟨none, by simp [optionalList, ← hf]; rfl, rfl⟩
  · refine ⟨some (s :: ss), ?_, rfl⟩
    have hread := Json.asStrings_strings (s :: ss)
    rw [List.map_cons] at hread
    simp [optionalList, Fields.take, Json.once, hf, hread]

lemma foldlM_foreignKeys (limit : Nat) {f : Fields} (hf : f.foreignKeys? = none)
    (ks : List ForeignKey) :
    ∃ met, (optionalList "foreignKeys" (ks.map ForeignKey.toJson)).foldlM (Fields.take limit) f =
      .ok { f with foreignKeys? := met } ∧ met.getD [] = ks := by
  rcases ks with _ | ⟨k, ks⟩
  · exact ⟨none, by simp [optionalList, ← hf]; rfl, rfl⟩
  · refine ⟨some (k :: ks), ?_, rfl⟩
    have hread := ForeignKey.listOfJson_map (k :: ks)
    rw [List.map_cons] at hread
    simp [optionalList, Fields.take, Json.once, hf, hread]

lemma ofJson_toJson (t : Table) {limit : Nat} (h : 0 < limit) :
    ofJson limit t.toJson = .ok t := by
  obtain ⟨ps, hps, hprimary⟩ := foldlM_primaryKey limit (f := { columns? := some t.columns }) rfl
    t.primaryKey
  obtain ⟨ks, hks, hforeign⟩ := foldlM_foreignKeys limit
    (f := { columns? := some t.columns, primaryKey? := ps }) rfl t.foreignKeys
  rw [toJson, ofJson, List.foldlM_cons, take_columns h]
  simp only [bind, Except.bind, List.foldlM_append, hps, hks, Fields.table, hprimary, hforeign,
    Option.getD_some]
  rfl

end Table

namespace Catalog

lemma isPlain_toJson (c : Catalog) : c.toJson.isPlain = true := by
  rw [toJson, Json.isPlain]
  exact Json.membersArePlain_map fun e _ => e.2.isPlain_toJson

lemma ofJson_toJson (c : Catalog) {limit : Nat} (h : 0 < limit) :
    ofJson limit c.toJson = .ok c := by
  have hread : (c.entries.map fun e => (e.1, e.2.toJson)).mapM
      (fun m : String × Json => do return (m.1, ← Table.ofJson limit m.2)) = .ok c.entries := by
    rw [mapM_eq_ok_iff, List.forall₂_map_left_iff, List.forall₂_same]
    intro e _
    rw [Table.ofJson_toJson e.2 h]
    rfl
  rw [toJson, ofJson, hread]
  exact congrArg Except.ok (OrderedMap.ofList_entries c)

end Catalog

/-! ### Snapshots -/

namespace Snapshot

namespace Metadata

lemma isPlain_toJson (m : Metadata) : m.toJson.isPlain = true := by
  obtain ⟨name, _ | dialect, updated, checksum⟩ := m <;>
    simp [toJson, Json.optional, Json.isPlain, Json.membersArePlain]

lemma timestampOfJson_toText (t : Timestamp) : timestampOfJson (.string t.toText) = .ok t := by
  rw [timestampOfJson]
  simp only [Json.asString, bind, Except.bind, Timestamp.read?_toText]
  rfl

lemma ofJson_toJson (m : Metadata) : ofJson m.toJson = .ok m := by
  obtain ⟨name, _ | dialect, updated, checksum⟩ := m <;>
    simp [toJson, ofJson, Json.optional, Fields.take, Json.once, timestampOfJson_toText] <;> rfl

end Metadata

lemma isPlain_documentOf (m : Metadata) (tables : Catalog) :
    (documentOf m tables).isPlain = true := by
  simp [documentOf, Json.isPlain, Json.membersArePlain, m.isPlain_toJson, tables.isPlain_toJson]

lemma tablesOfJson_object (tables : Catalog) :
    tablesOfJson (.object [("tables", tables.toJson)]) = .ok tables := by
  have hread : Catalog.ofJson columnDepth tables.toJson = .ok tables :=
    tables.ofJson_toJson (by decide)
  simp [tablesOfJson, Json.once, hread]

lemma partsOfJson_documentOf (m : Metadata) (tables : Catalog) :
    partsOfJson (documentOf m tables) = .ok (m, tables) := by
  simp [partsOfJson, documentOf, Parts.take, Json.once, m.ofJson_toJson, tablesOfJson_object]
  rfl

lemma partsOfDocument_pretty (m : Metadata) (tables : Catalog) :
    partsOfDocument (documentOf m tables).pretty = .ok (m, tables) := by
  rw [partsOfDocument, Json.parse?_pretty (isPlain_documentOf m tables)]
  simp only [partsOfJson_documentOf]
  rfl

/-- **Documents lose nothing.** What a document is made of is read back from it, all members that
were left out included, and so two documents are the same text only when they are made of the
same. -/
theorem document_lossless (m : Metadata) (tables : Catalog) :
    partsOfDocument (documentOf m tables).pretty = .ok (m, tables) ∧
      ∀ (n : Metadata) (others : Catalog),
        (documentOf m tables).pretty = (documentOf n others).pretty ↔ m = n ∧ tables = others := by
  refine ⟨partsOfDocument_pretty m tables, fun n others => ⟨fun h => ?_, ?_⟩⟩
  · have hparts : Except.ok (m, tables) = (Except.ok (n, others) : Except Fault _) := by
      rw [← partsOfDocument_pretty, h, partsOfDocument_pretty]
    exact Prod.mk.inj (Except.ok.inj hparts)
  · rintro ⟨rfl, rfl⟩
    rfl

end Snapshot

end QueryGate
