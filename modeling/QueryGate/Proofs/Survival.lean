import Mathlib.Data.Finset.Max
import QueryGate.Proofs.Documents
import QueryGate.Proofs.LowerCase
import QueryGate.Proofs.Trimming

/-!
Which snapshots survive being written and read. Reading takes the normal form of every name once
more. This changes a normal form that is in quotes of its own, or has white space at its ends, and
no other; a table of such a name is lost.
-/

namespace QueryGate

namespace Identifier

/-- A name without white space at its ends and without a pair of quotes around it. -/
def IsBare (name : String) : Prop :=
  Text.trimChars name.toList = name.toList ∧ ¬ ∃ inner, name.toList = '"' :: (inner ++ ['"'])

/-! ### What a normal form leaves out -/

lemma undouble_sublist (cs : List Char) : (undouble cs).Sublist cs := by
  induction cs using undouble.induct with
  | case1 cs ih => exact (ih.cons '"').cons_cons '"'
  | case2 c cs h ih =>
    rw [undouble]
    · exact ih.cons_cons c
    · exact h
  | case3 => exact .slnil

lemma unquote_quoted (inner : List Char) : unquote ('"' :: (inner ++ ['"'])) = undouble inner := by
  simp [unquote]

lemma unquote_cases (cs : List Char) :
    (∃ inner, cs = '"' :: (inner ++ ['"'])) ∨ unquote cs = cs := by
  unfold unquote
  split
  · next inner =>
    split
    · next h =>
      obtain ⟨init, rfl⟩ := List.getLast?_eq_some_iff.mp h
      exact .inl ⟨init, rfl⟩
    · exact .inr rfl
  · exact .inr rfl

lemma unquote_sublist (cs : List Char) : (unquote cs).Sublist cs := by
  rcases unquote_cases cs with ⟨inner, rfl⟩ | h
  · rw [unquote_quoted]
    exact ((undouble_sublist inner).trans (List.sublist_append_left inner _)).cons '"'
  · rw [h]

lemma unquote_eq_self_iff {cs : List Char} :
    unquote cs = cs ↔ ¬ ∃ inner, cs = '"' :: (inner ++ ['"']) := by
  constructor
  · rintro h ⟨inner, rfl⟩
    have hlength := (undouble_sublist inner).length_le
    rw [← unquote_quoted, h] at hlength
    simp only [List.length_cons, List.length_append, List.length_nil] at hlength
    omega
  · exact (unquote_cases cs).resolve_left

/-! ### Normal forms of normal forms -/

variable {name : String}

lemma isLowered_normalize (raw : String) : ∀ c ∈ (normalize raw).toList, Text.IsLowered c := by
  rw [normalize, String.toList_ofList]
  exact Text.isLowered_of_mem_lowerFrom

lemma toList_normalize (h : ∀ c ∈ name.toList, Text.IsLowered c) :
    (normalize name).toList = unquote (Text.trimChars name.toList) := by
  have hsub := (unquote_sublist _).trans (Text.trimChars_sublist name.toList)
  rw [normalize, String.toList_ofList, normalizeChars,
    Text.lowerFrom_of_isLowered fun c hc => h c (hsub.subset hc)]

lemma normalize_sublist (h : ∀ c ∈ name.toList, Text.IsLowered c) :
    (normalize name).toList.Sublist name.toList := by
  rw [toList_normalize h]
  exact (unquote_sublist _).trans (Text.trimChars_sublist name.toList)

/-- A name in lower case is in normal form just when it is bare. -/
lemma normalize_eq_self_iff (h : ∀ c ∈ name.toList, Text.IsLowered c) :
    normalize name = name ↔ IsBare name := by
  rw [← String.toList_inj, toList_normalize h, IsBare, ← unquote_eq_self_iff]
  constructor
  · intro he
    have htrim : Text.trimChars name.toList = name.toList := by
      refine (Text.trimChars_sublist _).antisymm ?_
      have hsub := unquote_sublist (Text.trimChars name.toList)
      rwa [he] at hsub
    rw [htrim] at he
    exact ⟨htrim, he⟩
  · rintro ⟨htrim, hquote⟩
    rw [htrim, hquote]

/-- A normal form that changes gets shorter. -/
lemma length_normalize_lt (h : ∀ c ∈ name.toList, Text.IsLowered c) (hne : normalize name ≠ name) :
    (normalize name).toList.length < name.toList.length := by
  have hsub := normalize_sublist h
  refine lt_of_le_of_ne hsub.length_le fun he => hne ?_
  exact String.toList_inj.mp (hsub.eq_of_length he)

end Identifier

/-! ### Names that are lost -/

namespace Catalog

variable {c : Catalog} {name : String}

lemma isLowered_of_mem_keys_normalize (h : name ∈ c.normalize.keys) :
    ∀ d ∈ name.toList, Text.IsLowered d := by
  obtain ⟨raw, -, rfl⟩ := mem_keys_normalize.mp h
  exact Identifier.isLowered_normalize raw

lemma hasFixedNames_normalize_iff (c : Catalog) :
    c.normalize.HasFixedNames ↔ ∀ name ∈ c.normalize.keys, Identifier.IsBare name :=
  forall₂_congr fun _ h => Identifier.normalize_eq_self_iff (isLowered_of_mem_keys_normalize h)

/-- The longest of the names that are not fixed is nobody's normal form. -/
lemma exists_lost (h : ¬ c.normalize.HasFixedNames) :
    ∃ name ∈ c.normalize.keys, name ∉ c.normalize.normalize.keys := by
  let unfixed := c.normalize.keys.toFinset.filter fun name => Identifier.normalize name ≠ name
  have hne : unfixed.Nonempty := by
    simp only [HasFixedNames, not_forall] at h
    obtain ⟨name, hname, hfixed⟩ := h
    exact ⟨name, Finset.mem_filter.mpr ⟨List.mem_toFinset.mpr hname, hfixed⟩⟩
  obtain ⟨name, hname, hmax⟩ := unfixed.exists_max_image (fun name => name.toList.length) hne
  obtain ⟨hkey, hfixed⟩ := Finset.mem_filter.mp hname
  refine ⟨name, List.mem_toFinset.mp hkey, fun hlost => hfixed ?_⟩
  obtain ⟨raw, hraw, rfl⟩ := mem_keys_normalize.mp hlost
  by_cases hr : Identifier.normalize raw = raw
  · rw [hr, hr]
  · have hshort := Identifier.length_normalize_lt (isLowered_of_mem_keys_normalize hraw) hr
    have hlong := hmax raw (Finset.mem_filter.mpr ⟨List.mem_toFinset.mpr hraw, hr⟩)
    omega

end Catalog

namespace Snapshot

lemma ofDocument_take (name : String) (dialect? : Option String) (tables : Catalog)
    (now : Timestamp) : ofDocument (take name dialect? tables now).toDocument =
      .ok (take name dialect? tables.normalize now) :=
  ofDocument_toDocument _

/-- **When a snapshot comes back from its document.** Every new snapshot can be written and read,
and keeps its name, its dialect and its time. It comes back as it was just when the normal forms of
its tables' names are bare; otherwise a table is lost. -/
theorem survives_iff (name : String) (dialect? : Option String) (tables : Catalog)
    (now : Timestamp) :
    let s := take name dialect? tables now
    ∃ read, ofDocument s.toDocument = .ok read ∧
      read.name = name ∧ read.dialect? = dialect? ∧ read.updated = now ∧
      (read = s ↔ ∀ table ∈ s.tables.keys, Identifier.IsBare table) ∧
      (read ≠ s → ∃ table ∈ s.tables.keys, table ∉ read.tables.keys) := by
  intro s
  have hlost (h : ¬ tables.normalize.HasFixedNames) :
      ∃ table ∈ s.tables.keys, table ∉ (take name dialect? tables.normalize now).tables.keys :=
    Catalog.exists_lost h
  have hiff : take name dialect? tables.normalize now = s ↔ tables.normalize.HasFixedNames := by
    constructor
    · intro h
      by_contra hfixed
      obtain ⟨table, htable, hnot⟩ := hlost hfixed
      exact hnot (h ▸ htable)
    · intro h
      simp only [s, take, Catalog.normalize_normalize h]
  refine ⟨_, ofDocument_take name dialect? tables now, rfl, rfl, rfl, ?_, fun hne => ?_⟩
  · rw [hiff, Catalog.hasFixedNames_normalize_iff]
    rfl
  · exact hlost fun h => hne (hiff.mpr h)

/-- A table whose name is in quotes once its own quotes are opened. -/
def quotedTable : Catalog := .ofList [("\"\"\"a\"\"\"", .empty)]

/-- The table comes back under another name. -/
theorem exists_lost_table : ¬ ∀ (name : String) (dialect? : Option String) (tables : Catalog)
    (now : Timestamp), ofDocument (take name dialect? tables now).toDocument =
      .ok (take name dialect? tables now) := by
  intro h
  have hread := h "crm" none quotedTable .epoch
  rw [ofDocument_take, Except.ok.injEq] at hread
  have hkeys := congrArg (fun s => s.tables.keys) hread
  revert hkeys
  decide +kernel

end Snapshot

end QueryGate
