import QueryGate.Proofs.BareNames
import QueryGate.Proofs.Collapse
import QueryGate.Snapshot.Payload

/-!
Two ways to load a payload: as a snapshot, or as its tables alone. A payload that is a snapshot
itself is read by a decoder of its own in the first way, and as any other document in the second.
They agree on a snapshot that is laid out as snapshots are written, when its names are bare.
-/

namespace QueryGate

/-! ### Tables of a document -/

lemma Json.required_eq_ok_iff {α : Type} {field : String} {met : Option α} {a : α} :
    required field met = .ok a ↔ met = some a := by
  rcases met with _ | b <;> simp [required]

lemma Json.mem_of_member? {key : String} {ms : List (String × Json)} {j : Json}
    (h : (object ms).member? key = some j) : (key, j) ∈ ms := by
  rw [member?, ← OrderedMap.get?_ofList, OrderedMap.get?_eq_some_iff] at h
  exact OrderedMap.mem_of_mem_ofList h

namespace Catalog

/-- Tables in the schema go before tables beside it. -/
lemma tablesMember?_eq_some_iff {j tables : Json} : tablesMember? j = some tables ↔
    (∃ schema, j.member? "schema" = some schema ∧ schema.member? "tables" = some tables) ∨
      (∀ schema, j.member? "schema" = some schema → schema.member? "tables" = none) ∧
        j.member? "tables" = some tables := by
  rcases j with _ | _ | _ | _ | _ | js | ms
  case object =>
    rw [tablesMember?, ← Option.bind_eq_some_iff, ← Option.bind_eq_none_iff]
    rcases ((Json.object ms).member? "schema").bind (Json.member? "tables") with _ | found
    · simp
    · simp
  all_goals simp [tablesMember?, Json.member?]

lemma tablesMember?_collapse (j : Json) :
    tablesMember? j.collapse = (tablesMember? j).map Json.collapse := by
  rcases j with _ | _ | _ | _ | _ | js | ms
  case object =>
    have hinner : ((Json.object ms).collapse.member? "schema").bind (Json.member? "tables") =
        (((Json.object ms).member? "schema").bind (Json.member? "tables")).map Json.collapse := by
      rw [Json.member?_collapse]
      rcases (Json.object ms).member? "schema" with _ | schema
      · rfl
      · exact Json.member?_collapse "tables" schema
    have hobject : ∃ ns, (Json.object ms).collapse = .object ns := ⟨_, Json.collapse_object ms⟩
    obtain ⟨ns, hns⟩ := hobject
    rw [hns] at hinner ⊢
    rw [tablesMember?, tablesMember?, hinner, ← hns]
    rcases ((Json.object ms).member? "schema").bind (Json.member? "tables") with _ | tables
    · exact Json.member?_collapse "tables" _
    · rfl
  all_goals rfl

lemma exists_object_of_ofJson {limit : Nat} {j : Json} {c : Catalog}
    (h : ofJson limit j = .ok c) : ∃ members, j = .object members := by
  rcases j with _ | _ | _ | _ | _ | js | ms
  case object => exact ⟨ms, rfl⟩
  all_goals cases h

lemma ofDocument_eq_ok_iff {j : Json} {c : Catalog} : ofDocument j = .ok c ↔
    ∃ tables raw, tablesMember? j = some tables ∧ ofJson depthLimit tables.collapse = .ok raw ∧
      raw.normalize = c := by
  rw [ofDocument, tablesMember?_collapse]
  rcases tablesMember? j with _ | tables
  · simp
  rw [Option.map_some]
  constructor
  · intro h
    split at h
    · next members hmembers =>
      rw [Option.some.injEq] at hmembers
      rcases hraw : ofJson depthLimit (.object members) with e | raw
      · rw [hraw] at h
        cases h
      · rw [hraw] at h
        exact ⟨tables, raw, rfl, by rw [hmembers, hraw], Except.ok.inj h⟩
    · cases h
  · rintro ⟨_, raw, htables, hraw, rfl⟩
    cases htables
    obtain ⟨members, hmembers⟩ := exists_object_of_ofJson hraw
    rw [hmembers] at hraw ⊢
    simp only [hraw]
    rfl

lemma ofPayload_document_eq_ok_iff {d : Dialect} {text : String} {c : Catalog}
    (h : looksLikeDocument (Text.trim text) = true) : ofPayload d text = .ok c ↔
      ∃ j, Json.parse? (Text.trim text) = some j ∧ j.isFreeForm depthLimit = true ∧
        ofDocument j = .ok c := by
  have hempty : (Text.trim text).isEmpty = false := by
    rw [Bool.eq_false_iff]
    intro he
    rw [looksLikeDocument, String.isEmpty_iff.mp he] at h
    cases h
  rw [ofPayload]
  simp only [hempty, h, Bool.false_eq_true, if_false, Bool.not_true]
  rcases Json.parse? (Text.trim text) with _ | j
  · simp
  · rcases hfree : j.isFreeForm depthLimit
    · simp [hfree]
    · simp [hfree]

lemma normalize_normalize_eq_iff {c : Catalog} :
    c.normalize.normalize = c.normalize ↔ ∀ name ∈ c.normalize.keys, Identifier.IsBare name := by
  rw [← hasFixedNames_normalize_iff]
  constructor
  · intro h
    by_contra hfixed
    obtain ⟨name, hname, hlost⟩ := exists_lost hfixed
    rw [h] at hlost
    exact hlost hname
  · exact normalize_normalize

end Catalog

namespace Snapshot

/-! ### Tables of a snapshot -/

/-- What a member of a schema does to the tables that have been met. -/
def takeTables (met : Option Catalog) (m : String × Json) : Except Mismatch (Option Catalog) :=
  if m.1 = "tables" then Json.once m.1 met (Catalog.ofJson columnDepth m.2) else .ok met

lemma takesOnce_tables :
    Json.TakesOnce takeTables "tables" id (Catalog.ofJson columnDepth) where
  own := by
    intro f g j h
    rw [takeTables, if_pos rfl] at h
    exact Json.once_eq_ok_iff.mp h
  other := by
    intro f g m hne h
    rw [takeTables, if_neg hne] at h
    exact (Except.ok.inj h).symm

lemma takesOnce_schema : Json.TakesOnce Parts.take "schema" Parts.tables? tablesOfJson where
  own := by
    intro f g j h
    obtain ⟨hmet, tables, htables, rfl⟩ := Json.exists_of_once h
    exact ⟨hmet, tables, htables, rfl⟩
  other := by
    rintro f g ⟨key, j⟩ hne h
    rw [Parts.take] at h
    split_ifs at h
    · obtain ⟨-, m, -, rfl⟩ := Json.exists_of_once h
      rfl
    · exact congrArg Parts.tables? (Except.ok.inj h).symm

/-- The tables of a snapshot are those under `tables` in its schema. -/
lemma ofJson_of_partsOfJson {j schema tables : Json} {m : Metadata} {c : Catalog}
    (h : partsOfJson j = .ok (m, c)) (hschema : j.member? "schema" = some schema)
    (htables : schema.member? "tables" = some tables) :
    Catalog.ofJson columnDepth tables = .ok c := by
  rcases j with _ | _ | _ | _ | _ | js | ms
  case object =>
    obtain ⟨p, hp, hfinish⟩ := bind_eq_ok_iff.mp h
    obtain ⟨m', -, hfinish⟩ := bind_eq_ok_iff.mp hfinish
    obtain ⟨c', hc, hfinish⟩ := bind_eq_ok_iff.mp hfinish
    cases hfinish
    obtain ⟨d, hd, hget⟩ := takesOnce_schema.exists_read hp (Json.mem_of_member? hschema)
    rw [hget, Json.required_eq_ok_iff, Option.some.injEq] at hc
    subst hc
    rcases schema with _ | _ | _ | _ | _ | js | ns
    case object =>
      obtain ⟨met, hmet, hd⟩ := bind_eq_ok_iff.mp hd
      obtain ⟨e, he, hmet⟩ := takesOnce_tables.exists_read hmet (Json.mem_of_member? htables)
      obtain rfl : met = some e := hmet
      cases hd
      exact he
    all_goals cases htables
  all_goals cases hschema

/-! ### Payloads -/

variable {text name : String} {dialect? : Option String} {now : Timestamp} {s : Snapshot}

/-- Both ways to load a payload succeed, with the same tables up to normal form, or none does. -/
def LoadsAlike (text name : String) (dialect? : Option String) (now : Timestamp) : Prop :=
  ((∃ s, ofPayload text name dialect? now = .ok s) ↔
      ∃ c, Catalog.ofPayload (Dialect.ofName? dialect?) text = .ok c) ∧
    ∀ s c, ofPayload text name dialect? now = .ok s →
      Catalog.ofPayload (Dialect.ofName? dialect?) text = .ok c → s.tables = c.normalize

/-- A payload as snapshots are laid out: a free-form document with tables in its schema. -/
def IsLaidOut (payload : String) : Prop :=
  ∃ j schema tables, Json.parse? payload = some j ∧ j.isFreeForm Catalog.depthLimit = true ∧
    j.member? "schema" = some schema ∧ schema.member? "tables" = some tables

/-- A payload with tables beside its schema that come to the tables of a snapshot. -/
def HasBeside (payload : String) (c : Catalog) : Prop :=
  ∃ j tables raw, Json.parse? payload = some j ∧ j.isFreeForm Catalog.depthLimit = true ∧
    j.member? "tables" = some tables ∧
    Catalog.ofJson Catalog.depthLimit tables.collapse = .ok raw ∧ raw.normalize.normalize = c

lemma stored?_eq_some_iff {payload : String} : stored? payload = some s ↔
    Catalog.looksLikeDocument payload = true ∧ ∃ j m c, Json.parse? payload = some j ∧
      partsOfJson j = .ok (m, c) ∧ restore m c = s := by
  rw [stored?, ofDocument, partsOfDocument]
  rcases Catalog.looksLikeDocument payload
  · simp
  · rcases Json.parse? payload with _ | j
    · simp [Except.map, Except.toOption]
    · rcases hparts : partsOfJson j with e | ⟨m, c⟩
      · simp [hparts, Except.map, Except.mapError, Except.toOption]
      · simp [hparts, Except.map, Except.mapError, Except.toOption]

/-- A payload that is no snapshot becomes one with its tables. -/
lemma loadsAlike_of_stored?_eq_none (h : stored? (Text.trim text) = none) :
    LoadsAlike text name dialect? now := by
  have htrim : Catalog.ofPayload (Dialect.ofName? dialect?) (Text.trim text) =
      Catalog.ofPayload (Dialect.ofName? dialect?) text := by
    rw [Catalog.ofPayload, Catalog.ofPayload, Text.trim_trim]
  rw [LoadsAlike, ofPayload]
  simp only [h, htrim]
  rcases Catalog.ofPayload (Dialect.ofName? dialect?) text with e | c
  · refine ⟨⟨?_, ?_⟩, fun _ _ h => ?_⟩
    · rintro ⟨_, h⟩
      cases h
    · rintro ⟨_, h⟩
      cases h
    · cases h
  · refine ⟨⟨fun _ => ⟨c, rfl⟩, fun _ => ⟨_, rfl⟩⟩, fun s c' hs hc => ?_⟩
    cases hs
    cases hc
    rfl

/-- A payload that is a snapshot is loaded as it is. -/
lemma loadsAlike_iff_of_stored? (h : stored? (Text.trim text) = some s) :
    LoadsAlike text name dialect? now ↔
      ∃ c, Catalog.ofPayload (Dialect.ofName? dialect?) text = .ok c ∧ s.tables = c.normalize := by
  rw [LoadsAlike, ofPayload]
  simp only [h]
  constructor
  · rintro ⟨hiff, htables⟩
    obtain ⟨c, hc⟩ := hiff.mp ⟨s, rfl⟩
    exact ⟨c, hc, htables s c rfl hc⟩
  · rintro ⟨c, hc, htables⟩
    refine ⟨⟨fun _ => ⟨c, hc⟩, fun _ => ⟨s, rfl⟩⟩, fun s' c' hs' hc' => ?_⟩
    cases hs'
    rw [hc] at hc'
    cases hc'
    exact htables

/-- The tables in the schema are loaded both ways, but once more into normal form alone. -/
lemma loadsAlike_iff_of_isLaidOut (h : stored? (Text.trim text) = some s)
    (hlaid : IsLaidOut (Text.trim text)) :
    LoadsAlike text name dialect? now ↔ ∀ table ∈ s.tables.keys, Identifier.IsBare table := by
  obtain ⟨j, schema, tables, hparse, hfree, hschema, htables⟩ := hlaid
  obtain ⟨hdocument, j', m, raw, hparse', hparts, rfl⟩ := stored?_eq_some_iff.mp h
  obtain rfl : j = j' := Option.some.inj (hparse.symm.trans hparse')
  have hlimit : columnDepth ≤ Catalog.depthLimit := Nat.sub_le _ _
  have hraw := Catalog.ofJson_collapse hlimit (ofJson_of_partsOfJson hparts hschema htables)
  have hload : Catalog.ofPayload (Dialect.ofName? dialect?) text = .ok raw.normalize := by
    rw [Catalog.ofPayload_document_eq_ok_iff hdocument]
    exact ⟨j, hparse, hfree, Catalog.ofDocument_eq_ok_iff.mpr
      ⟨tables, raw, Catalog.tablesMember?_eq_some_iff.mpr (.inl ⟨schema, hschema, htables⟩), hraw,
        rfl⟩⟩
  rw [loadsAlike_iff_of_stored? h, hload]
  have hnormal : (restore m raw).tables = raw.normalize := rfl
  rw [hnormal, ← Catalog.normalize_normalize_eq_iff]
  constructor
  · rintro ⟨c, hc, he⟩
    cases hc
    exact he.symm
  · exact fun he => ⟨_, rfl, he.symm⟩

lemma loadsAlike_iff_of_not_isLaidOut (h : stored? (Text.trim text) = some s)
    (hlaid : ¬ IsLaidOut (Text.trim text)) :
    LoadsAlike text name dialect? now ↔ HasBeside (Text.trim text) s.tables := by
  have hdocument := (stored?_eq_some_iff.mp h).1
  rw [loadsAlike_iff_of_stored? h]
  constructor
  · rintro ⟨c, hload, hc⟩
    rw [Catalog.ofPayload_document_eq_ok_iff hdocument] at hload
    obtain ⟨j, hparse, hfree, hload⟩ := hload
    obtain ⟨tables, raw, hmember, hraw, rfl⟩ := Catalog.ofDocument_eq_ok_iff.mp hload
    rcases Catalog.tablesMember?_eq_some_iff.mp hmember with ⟨schema, hs, ht⟩ | ⟨-, hbeside⟩
    · exact absurd ⟨j, schema, tables, hparse, hfree, hs, ht⟩ hlaid
    · exact ⟨j, tables, raw, hparse, hfree, hbeside, hraw, hc.symm⟩
  · rintro ⟨j, tables, raw, hparse, hfree, hbeside, hraw, hc⟩
    have hnone : ∀ schema, j.member? "schema" = some schema → schema.member? "tables" = none := by
      intro schema hs
      rw [Option.eq_none_iff_forall_ne_some]
      exact fun t ht => hlaid ⟨j, schema, t, hparse, hfree, hs, ht⟩
    have hmember := Catalog.tablesMember?_eq_some_iff.mpr (.inr ⟨hnone, hbeside⟩)
    exact ⟨raw.normalize, (Catalog.ofPayload_document_eq_ok_iff hdocument).mpr
      ⟨j, hparse, hfree, Catalog.ofDocument_eq_ok_iff.mpr ⟨tables, raw, hmember, hraw, rfl⟩⟩,
      hc.symm⟩

/-- **When both ways to load a payload agree.** They do for any payload that is no snapshot itself,
and for a snapshot that is laid out as snapshots are if the names of its tables are bare. If it is
laid out otherwise, they agree only when tables that stand beside its schema come to the same. -/
theorem loadsAlike_iff (text name : String) (dialect? : Option String) (now : Timestamp) :
    LoadsAlike text name dialect? now ↔ ∀ s ∈ stored? (Text.trim text),
      (IsLaidOut (Text.trim text) ∧ ∀ table ∈ s.tables.keys, Identifier.IsBare table) ∨
        (¬ IsLaidOut (Text.trim text) ∧ HasBeside (Text.trim text) s.tables) := by
  rcases hstored : stored? (Text.trim text) with _ | s
  · simpa using loadsAlike_of_stored?_eq_none hstored
  simp only [Option.mem_some, forall_eq']
  by_cases hlaid : IsLaidOut (Text.trim text)
  · rw [loadsAlike_iff_of_isLaidOut hstored hlaid]
    simp [hlaid]
  · rw [loadsAlike_iff_of_not_isLaidOut hstored hlaid]
    simp [hlaid]

/-! ### Written payloads -/

lemma trim_compact (ms : List (String × Json)) :
    Text.trim (Json.object ms).compact = (Json.object ms).compact := by
  have htext : (Json.object ms).compact.toList =
      '\x7b' :: (Json.compactMembers ms ++ ['\x7d']) := by
    rw [Json.compact, String.toList_ofList, Json.compactChars]
    rfl
  rw [Text.trim, htext, Identifier.trimChars_of_not_blank _ (by decide) (by decide), ← htext,
    String.ofList_toList]

lemma stored?_compact {ms : List (String × Json)} {m : Metadata} {c : Catalog}
    (hplain : (Json.object ms).isPlain = true)
    (hparts : partsOfJson (.object ms) = .ok (m, c)) :
    stored? (Text.trim (Json.object ms).compact) = some (restore m c) := by
  rw [trim_compact, stored?_eq_some_iff]
  refine ⟨?_, .object ms, m, c, Json.parse?_compact hplain, hparts, rfl⟩
  rw [Catalog.looksLikeDocument, Json.compact, String.toList_ofList, Json.compactChars]
  rfl

/-- What is known of a snapshot that somebody else made. -/
def foreignMetadata : Metadata := ⟨"crm", some "postgres", .epoch, "none"⟩

def ordersTable : Catalog := .ofList [("Orders", ⟨[.ofName "id"], [], []⟩)]

/-- The snapshot of a table with a bare name, written on one line. -/
theorem loadsAlike_orders :
    LoadsAlike (documentOf foreignMetadata ordersTable).compact "schema" none .epoch := by
  have hplain := isPlain_documentOf foreignMetadata ordersTable
  have hstored := stored?_compact hplain (partsOfJson_documentOf foreignMetadata ordersTable)
  have hlaid : IsLaidOut (Text.trim (documentOf foreignMetadata ordersTable).compact) := by
    rw [documentOf, trim_compact]
    exact ⟨_, _, _, Json.parse?_compact hplain, by decide +kernel, rfl, rfl⟩
  rw [loadsAlike_iff]
  intro s hs
  rw [documentOf, hstored] at hs
  cases hs
  exact .inl ⟨hlaid, by decide +kernel⟩

/-- A snapshot may leave out its tables, but then they cannot be loaded alone. -/
theorem exists_not_loadsAlike : ¬ ∀ (text name : String) (dialect? : Option String)
    (now : Timestamp), LoadsAlike text name dialect? now := by
  intro h
  let ms : List (String × Json) := [("meta", foreignMetadata.toJson), ("schema", .object [])]
  have hplain : (Json.object ms).isPlain = true := by decide +kernel
  have hparts : partsOfJson (.object ms) = .ok (foreignMetadata, .empty) := by
    simp [ms, partsOfJson, Parts.take, Json.once, foreignMetadata.ofJson_toJson, tablesOfJson]
    rfl
  have hstored := stored?_compact hplain hparts
  obtain ⟨c, hload, -⟩ := (loadsAlike_iff_of_stored? hstored).mp
    (h (Json.object ms).compact "schema" none .epoch)
  rw [Catalog.ofPayload_document_eq_ok_iff (stored?_eq_some_iff.mp hstored).1, trim_compact,
    Json.parse?_compact hplain] at hload
  obtain ⟨j, hj, -, hload⟩ := hload
  cases hj
  cases hload

end Snapshot

end QueryGate
