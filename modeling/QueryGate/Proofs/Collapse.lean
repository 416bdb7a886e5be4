import QueryGate.Catalog.Codec
import QueryGate.Proofs.Maps
import QueryGate.Proofs.Results

/-!
Documents whose members are collapsed. A reader that takes each of its fields once and ignores all
other members does not see the difference, so whatever is read of a document is also read of the
collapsed one.
-/

namespace QueryGate

namespace Json

/-! ### Members -/

lemma collapseAll_eq_map (js : List Json) : collapseAll js = js.map collapse := by
  induction js with
  | nil => rfl
  | cons j js ih => rw [collapseAll, ih, List.map_cons]

lemma collapseMembers_eq_map (ms : List (String × Json)) :
    collapseMembers ms = ms.map fun m => (m.1, m.2.collapse) := by
  induction ms with
  | nil => rfl
  | cons m ms ih => rw [collapseMembers, ih, List.map_cons]

lemma collapse_array (js : List Json) : (array js).collapse = .array (js.map collapse) := by
  rw [collapse, collapseAll_eq_map]

/-- Each key once, and then the values. -/
lemma collapse_object (ms : List (String × Json)) : (object ms).collapse =
    .object ((OrderedMap.ofList ms).entries.map fun m => (m.1, m.2.collapse)) := by
  have hrelated : List.Forall₂ (fun m n => m.1 = n.1 ∧ m.2.collapse = n.2)
      ms (ms.map fun m => (m.1, m.2.collapse)) := by
    rw [List.forall₂_map_right_iff, List.forall₂_same]
    exact fun m _ => ⟨rfl, rfl⟩
  have hentries := OrderedMap.forall₂_entries_ofList (R := fun j k => collapse j = k) hrelated
  rw [collapse, collapseMembers_eq_map]
  refine congrArg object ?_
  rw [← List.forall₂_eq_eq_eq, List.forall₂_map_right_iff]
  exact hentries.flip.imp fun m n h => Prod.ext h.1.symm h.2.symm

lemma lookup_map_snd {α β : Type} (f : α → β) (k : String) (es : List (String × α)) :
    (es.map fun e => (e.1, f e.2)).lookup k = (es.lookup k).map f := by
  induction es with
  | nil => rfl
  | cons e es ih =>
    rw [List.map_cons, OrderedMap.lookup_cons_eq, OrderedMap.lookup_cons_eq, ih]
    split <;> rfl

/-- The last value of a key is the one that stays. -/
lemma member?_collapse (key : String) (j : Json) :
    j.collapse.member? key = (j.member? key).map collapse := by
  rcases j with _ | _ | _ | _ | _ | js | ms
  case object =>
    rw [collapse_object, member?, member?, ← List.map_reverse, lookup_map_snd,
      ← OrderedMap.get?_ofList, OrderedMap.ofList_entries, OrderedMap.get?_ofList]
  all_goals rfl

/-! ### Free form -/

lemma depthAll_le_iff {n : Nat} {js : List Json} : depthAll js ≤ n ↔ ∀ j ∈ js, j.depth ≤ n := by
  induction js with
  | nil => simp [depthAll]
  | cons j js ih => rw [depthAll, Nat.max_le, ih, List.forall_mem_cons]

lemma depthMembers_le_iff {n : Nat} {ms : List (String × Json)} :
    depthMembers ms ≤ n ↔ ∀ m ∈ ms, m.2.depth ≤ n := by
  induction ms with
  | nil => simp [depthMembers]
  | cons m ms ih => rw [depthMembers, Nat.max_le, ih, List.forall_mem_cons]

lemma inRangeAll_iff {js : List Json} : inRangeAll js = true ↔ ∀ j ∈ js, j.inRange = true := by
  induction js with
  | nil => simp [inRangeAll]
  | cons j js ih => rw [inRangeAll, Bool.and_eq_true, ih, List.forall_mem_cons]

lemma inRangeMembers_iff {ms : List (String × Json)} :
    inRangeMembers ms = true ↔ ∀ m ∈ ms, m.2.inRange = true := by
  induction ms with
  | nil => simp [inRangeMembers]
  | cons m ms ih => rw [inRangeMembers, Bool.and_eq_true, ih, List.forall_mem_cons]

lemma isTextAll_iff {js : List Json} : isTextAll js = true ↔ ∀ j ∈ js, j.isText = true := by
  induction js with
  | nil => simp [isTextAll]
  | cons j js ih => rw [isTextAll, Bool.and_eq_true, ih, List.forall_mem_cons]

lemma isTextMembers_iff {ms : List (String × Json)} :
    isTextMembers ms = true ↔ ∀ m ∈ ms, m.2.isText = true := by
  induction ms with
  | nil => simp [isTextMembers]
  | cons m ms ih => rw [isTextMembers, Bool.and_eq_true, ih, List.forall_mem_cons]

lemma isFreeForm_iff {n : Nat} {j : Json} :
    j.isFreeForm n = true ↔ j.depth ≤ n ∧ j.inRange = true ∧ j.isText = true := by
  simp [isFreeForm, and_assoc]

lemma isFreeForm_mono {m n : Nat} (h : m ≤ n) {j : Json} (hj : j.isFreeForm m = true) :
    j.isFreeForm n = true := by
  rw [isFreeForm_iff] at hj ⊢
  exact ⟨Nat.le_trans hj.1 h, hj.2⟩

lemma isFreeForm_array_iff {n : Nat} {js : List Json} :
    (array js).isFreeForm n = true ↔ 0 < n ∧ ∀ j ∈ js, j.isFreeForm (n - 1) = true := by
  have hdepth : 1 + depthAll js ≤ n ↔ 0 < n ∧ depthAll js ≤ n - 1 := by omega
  simp only [isFreeForm_iff, depth, inRange, isText, hdepth, depthAll_le_iff, inRangeAll_iff,
    isTextAll_iff, forall_and, and_assoc]

lemma isFreeForm_object_iff {n : Nat} {ms : List (String × Json)} :
    (object ms).isFreeForm n = true ↔ 0 < n ∧ ∀ m ∈ ms, m.2.isFreeForm (n - 1) = true := by
  have hdepth : 1 + depthMembers ms ≤ n ↔ 0 < n ∧ depthMembers ms ≤ n - 1 := by omega
  simp only [isFreeForm_iff, depth, inRange, isText, hdepth, depthMembers_le_iff,
    inRangeMembers_iff, isTextMembers_iff, forall_and, and_assoc]

/-- Collapsing leaves out values, and so it keeps what holds of each. -/
lemma isFreeForm_collapse {n : Nat} {j : Json} (h : j.isFreeForm n = true) :
    j.collapse.isFreeForm n = true := by
  induction n generalizing j with
  | zero =>
    rcases j with _ | _ | _ | _ | _ | js | ms
    case array => exact absurd (isFreeForm_array_iff.mp h).1 (Nat.lt_irrefl 0)
    case object => exact absurd (isFreeForm_object_iff.mp h).1 (Nat.lt_irrefl 0)
    all_goals exact h
  | succ n ih =>
    rcases j with _ | _ | _ | _ | _ | js | ms
    case array =>
      rw [isFreeForm_array_iff] at h
      rw [collapse_array, isFreeForm_array_iff]
      refine ⟨h.1, fun j hj => ?_⟩
      obtain ⟨j, hmem, rfl⟩ := List.mem_map.mp hj
      exact ih (h.2 j hmem)
    case object =>
      rw [isFreeForm_object_iff] at h
      rw [collapse_object, isFreeForm_object_iff]
      refine ⟨h.1, fun m hm => ?_⟩
      obtain ⟨m, hmem, rfl⟩ := List.mem_map.mp hm
      exact ih (h.2 m (OrderedMap.mem_of_mem_ofList hmem))
    all_goals exact h

/-! ### Fields -/

lemma once_eq_ok_iff {α : Type} {field : String} {met : Option α} {x : Except Mismatch α}
    {v : Option α} : once field met x = .ok v ↔ met = none ∧ ∃ a, x = .ok a ∧ v = some a := by
  rcases met with _ | b
  · rcases x with e | a
    · simp [once]
    · simp [once, eq_comm]
  · simp [once]

/-- What it takes to put the value of a field where it belongs. -/
lemma exists_of_once {φ α : Type} {field : String} {met : Option α} {x : Except Mismatch α}
    {fill : Option α → φ} {g : φ} (h : (once field met x >>= fun v => .ok (fill v)) = .ok g) :
    met = none ∧ ∃ a, x = .ok a ∧ fill (some a) = g := by
  obtain ⟨v, hv, hg⟩ := bind_eq_ok_iff.mp h
  obtain ⟨hmet, a, ha, rfl⟩ := once_eq_ok_iff.mp hv
  exact ⟨hmet, a, ha, Except.ok.inj hg⟩

lemma once_of_once {α : Type} {field : String} {met : Option α} {x y : Except Mismatch α}
    (hxy : ∀ a, x = .ok a → y = .ok a) (v : Option α) (h : once field met x = .ok v) :
    once field met y = .ok v := by
  obtain ⟨hmet, a, ha, hv⟩ := once_eq_ok_iff.mp h
  exact once_eq_ok_iff.mpr ⟨hmet, a, hxy a ha, hv⟩

variable {φ α : Type} {take : φ → String × Json → Except Mismatch φ} {f g : φ} {key : String}
  {ms : List (String × Json)}

/-- How a reader of members takes a field: a member under its key is read into it when it is still
empty, and members under other keys leave it as it is. -/
structure TakesOnce (take : φ → String × Json → Except Mismatch φ) (key : String)
    (get : φ → Option α) (read : Json → Except Mismatch α) : Prop where
  own : ∀ {f g j}, take f (key, j) = .ok g → get f = none ∧ ∃ a, read j = .ok a ∧ get g = some a
  other : ∀ {f g m}, m.1 ≠ key → take f m = .ok g → get g = get f

namespace TakesOnce

variable {get : φ → Option α} {read : Json → Except Mismatch α}

/-- A field that is filled is not filled again, and keeps its value. -/
lemma not_mem (h : TakesOnce take key get read) {a : α} (ha : get f = some a)
    (hms : ms.foldlM take f = .ok g) : key ∉ ms.map Prod.fst ∧ get g = some a := by
  induction ms generalizing f with
  | nil =>
    cases hms
    exact ⟨List.not_mem_nil, ha⟩
  | cons m ms ih =>
    rw [List.foldlM_cons] at hms
    obtain ⟨f', hf', hms⟩ := bind_eq_ok_iff.mp hms
    have hne : m.1 ≠ key := by
      rintro rfl
      rw [(h.own hf').1] at ha
      cases ha
    rw [← h.other hne hf'] at ha
    obtain ⟨hnot, hg⟩ := ih ha hms
    exact ⟨by simp [Ne.symm hne, hnot], hg⟩

/-- The value of a field is read from the only member under its key. -/
lemma exists_read (h : TakesOnce take key get read) (hms : ms.foldlM take f = .ok g) {j : Json}
    (hj : (key, j) ∈ ms) : ∃ a, read j = .ok a ∧ get g = some a := by
  induction ms generalizing f with
  | nil => cases hj
  | cons m ms ih =>
    rw [List.foldlM_cons] at hms
    obtain ⟨f', hf', hrest⟩ := bind_eq_ok_iff.mp hms
    rcases List.mem_cons.mp hj with rfl | hj
    · obtain ⟨-, a, hread, ha⟩ := h.own hf'
      exact ⟨a, hread, (h.not_mem ha hrest).2⟩
    · exact ih hrest hj

end TakesOnce

/-- A reader of members that fills a field for each known key, when it is not filled already, and
ignores all other members. -/
structure IsRecord (take : φ → String × Json → Except Mismatch φ) (known : List String)
    (filled : φ → List String) : Prop where
  fill : ∀ {f g key j}, key ∈ known → take f (key, j) = .ok g →
    key ∉ filled f ∧ ∀ k, k ∈ filled g ↔ k = key ∨ k ∈ filled f
  skip : ∀ {f m}, m.1 ∉ known → take f m = .ok f

namespace IsRecord

variable {known : List String} {filled : φ → List String}

/-- No known key comes twice, and none that is filled at the start comes at all. -/
lemma nodup_known (h : IsRecord take known filled) (hms : ms.foldlM take f = .ok g) :
    ((ms.filter (known.contains ·.1)).map Prod.fst).Nodup ∧
      ∀ m ∈ ms.filter (known.contains ·.1), m.1 ∉ filled f := by
  induction ms generalizing f with
  | nil => exact ⟨List.nodup_nil, by simp⟩
  | cons m ms ih =>
    rw [List.foldlM_cons] at hms
    obtain ⟨f', hf', hms⟩ := bind_eq_ok_iff.mp hms
    obtain ⟨hnodup, hnot⟩ := ih hms
    rw [List.filter_cons]
    split
    · next hm =>
      obtain ⟨hfree, hfilled⟩ := h.fill (by simpa using hm) hf'
      have hlater : ∀ n ∈ ms.filter (known.contains ·.1), n.1 ≠ m.1 ∧ n.1 ∉ filled f := by
        intro n hn
        have := hnot n hn
        rwa [hfilled, not_or] at this
      refine ⟨List.nodup_cons.mpr ⟨fun hmem => ?_, hnodup⟩,
        List.forall_mem_cons.mpr ⟨hfree, fun n hn => (hlater n hn).2⟩⟩
      obtain ⟨n, hn, he⟩ := List.mem_map.mp hmem
      exact (hlater n hn).1 he
    · next hm =>
      rw [h.skip (by simpa using hm)] at hf'
      cases hf'
      exact ⟨hnodup, hnot⟩

lemma foldlM_filter (h : IsRecord take known filled) :
    (ms.filter (known.contains ·.1)).foldlM take f = ms.foldlM take f := by
  induction ms generalizing f with
  | nil => rfl
  | cons m ms ih =>
    rw [List.filter_cons, List.foldlM_cons]
    split
    · rw [List.foldlM_cons]
      exact congrArg _ (funext fun _ => ih)
    · next hm =>
      rw [h.skip (by simpa using hm)]
      exact ih

/-- A record is also read when each key is left once. -/
lemma foldlM_entries (h : IsRecord take known filled) (hms : ms.foldlM take f = .ok g) :
    (OrderedMap.ofList ms).entries.foldlM take f = .ok g := by
  have hfilter := OrderedMap.filter_entries_ofList (p := known.contains) (h.nodup_known hms).1
  rw [← h.foldlM_filter, hfilter, h.foldlM_filter, hms]

end IsRecord

lemma foldlM_map_collapse {take' : φ → String × Json → Except Mismatch φ}
    (h : ∀ f g m, take f m = .ok g → take' f (m.1, m.2.collapse) = .ok g)
    (hms : ms.foldlM take f = .ok g) :
    (ms.map fun m => (m.1, m.2.collapse)).foldlM take' f = .ok g := by
  induction ms generalizing f with
  | nil => exact hms
  | cons m ms ih =>
    rw [List.foldlM_cons] at hms
    obtain ⟨f', hf', hms⟩ := bind_eq_ok_iff.mp hms
    rw [List.map_cons, List.foldlM_cons]
    exact bind_eq_ok_iff.mpr ⟨f', h _ _ _ hf', ih hms⟩

lemma mapM_map_collapse {read read' : Json → Except Mismatch α}
    (h : ∀ j a, read j = .ok a → read' j.collapse = .ok a) {js : List Json} {as : List α}
    (hjs : js.mapM read = .ok as) : (js.map collapse).mapM read' = .ok as := by
  rw [mapM_eq_ok_iff] at hjs ⊢
  rw [List.forall₂_map_left_iff]
  exact hjs.imp h

/-! ### Values -/

lemma asString_collapse {j : Json} {s : String} (h : j.asString = .ok s) :
    j.collapse.asString = .ok s := by
  cases j <;> first | exact h | cases h

lemma asStrings_collapse {j : Json} {ss : List String} (h : j.asStrings = .ok ss) :
    j.collapse.asStrings = .ok ss := by
  rcases j with _ | _ | _ | _ | _ | js | ms
  case array =>
    rw [collapse_array]
    exact mapM_map_collapse (fun _ _ => asString_collapse) h
  all_goals cases h

lemma collapse_eq_null_iff {j : Json} : j.collapse = .null ↔ j = .null := by
  cases j <;> simp [collapse]

lemma asOptional_of_ne_null (read : Json → Except Mismatch α) {j : Json} (h : j ≠ .null) :
    asOptional read j = some <$> read j := by
  rw [asOptional]
  exact h

lemma asOptional_collapse {read : Json → Except Mismatch α}
    (h : ∀ j a, read j = .ok a → read j.collapse = .ok a) {j : Json} {a? : Option α}
    (hj : asOptional read j = .ok a?) : asOptional read j.collapse = .ok a? := by
  by_cases hnull : j = .null
  · rwa [collapse_eq_null_iff.mpr hnull, ← hnull]
  · rw [asOptional_of_ne_null read hnull] at hj
    rw [asOptional_of_ne_null read (mt collapse_eq_null_iff.mp hnull)]
    exact bind_of_bind (h j) hj

end Json

/-! ### Columns and keys -/

namespace Column

lemma asBool_collapse {j : Json} {b : Bool} (h : asBool j = .ok b) : asBool j.collapse = .ok b := by
  cases j <;> first | exact h | cases h

/-- The keys of the fields that have been met. -/
def Fields.filled (f : Fields) : List String :=
  (f.name?.map fun _ => "name").toList ++ (f.type?.map fun _ => "type").toList ++
    (f.nullable?.map fun _ => "nullable").toList

lemma Fields.isRecord : Json.IsRecord take ["name", "type", "nullable"] filled where
  fill := by
    intro f g key j hkey h
    simp only [List.mem_cons, List.not_mem_nil, or_false] at hkey
    rcases hkey with rfl | rfl | rfl
    all_goals
      obtain ⟨hmet, a, -, rfl⟩ := Json.exists_of_once h
      simp [filled, hmet] <;> tauto
  skip := by
    rintro f ⟨key, j⟩ hkey
    simp only [List.mem_cons, List.not_mem_nil, or_false, not_or] at hkey
    rw [take, if_neg hkey.1, if_neg hkey.2.1, if_neg hkey.2.2]
    rfl

lemma Fields.take_collapse (f g : Fields) (m : String × Json) (h : f.take m = .ok g) :
    f.take (m.1, m.2.collapse) = .ok g := by
  obtain ⟨key, j⟩ := m
  have hstring (j : Json) (s : String) : j.asString = .ok s → j.collapse.asString = .ok s :=
    Json.asString_collapse
  have hbool (j : Json) (b : Bool) : asBool j = .ok b → asBool j.collapse = .ok b :=
    asBool_collapse
  rw [take] at h ⊢
  split_ifs at h ⊢
  · exact bind_of_bind (Json.once_of_once (hstring j)) h
  · exact bind_of_bind (Json.once_of_once fun _ => Json.asOptional_collapse hstring) h
  · exact bind_of_bind (Json.once_of_once fun _ => Json.asOptional_collapse hbool) h
  · exact h

/-- The column that some members describe. -/
def ofMembers (ms : List (String × Json)) : Except Mismatch Column := do
  let f ← ms.foldlM Fields.take {}
  return ⟨← Json.required "name" f.name?, f.type?.join, f.nullable?.join⟩

lemma ofJson_object_iff {limit : Nat} {ms : List (String × Json)} {c : Column} :
    ofJson limit (.object ms) = .ok c ↔
      (Json.object ms).isFreeForm limit = true ∧ ofMembers ms = .ok c := by
  unfold ofJson
  rw [ofMembers]
  simp only
  split
  · next d hd =>
    rw [hd]
    split
    · next hfree => simp [hfree]
    · next hfree => simp [hfree]
  · next e he =>
    refine ⟨nofun, fun h => ?_⟩
    rw [he] at h
    cases h.2

/-- A column is also read when it is collapsed, and when it may be nested deeper. -/
lemma ofJson_collapse {limit limit' : Nat} (hlimit : limit ≤ limit') {j : Json} {c : Column}
    (h : ofJson limit j = .ok c) : ofJson limit' j.collapse = .ok c := by
  rcases j with _ | _ | _ | _ | _ | js | ms
  case string s =>
    exact h
  case object =>
    obtain ⟨hfree, hms⟩ := ofJson_object_iff.mp h
    obtain ⟨f, hf, hc⟩ := bind_eq_ok_iff.mp hms
    have hfree' := Json.isFreeForm_mono hlimit (Json.isFreeForm_collapse hfree)
    have hf' := Json.foldlM_map_collapse Fields.take_collapse
      (Fields.isRecord.foldlM_entries hf)
    rw [Json.collapse_object] at hfree' ⊢
    exact ofJson_object_iff.mpr ⟨hfree', bind_eq_ok_iff.mpr ⟨f, hf', hc⟩⟩
  all_goals cases h

lemma listOfJson_collapse {limit limit' : Nat} (hlimit : limit ≤ limit') {j : Json}
    {cs : List Column} (h : listOfJson limit j = .ok cs) :
    listOfJson limit' j.collapse = .ok cs := by
  rcases j with _ | _ | _ | _ | _ | js | ms
  case array =>
    rw [Json.collapse_array]
    exact Json.mapM_map_collapse (fun _ _ => ofJson_collapse hlimit) h
  all_goals cases h

end Column

namespace ForeignKey

/-- The keys of the fields that have been met. -/
def Fields.filled (f : Fields) : List String :=
  (f.column?.map fun _ => "column").toList ++ (f.refTable?.map fun _ => "ref_table").toList ++
    (f.refColumn?.map fun _ => "ref_column").toList

lemma Fields.isRecord : Json.IsRecord take ["column", "ref_table", "ref_column"] filled where
  fill := by
    intro f g key j hkey h
    simp only [List.mem_cons, List.not_mem_nil, or_false] at hkey
    rcases hkey with rfl | rfl | rfl
    all_goals
      obtain ⟨hmet, a, -, rfl⟩ := Json.exists_of_once h
      simp [filled, hmet] <;> tauto
  skip := by
    rintro f ⟨key, j⟩ hkey
    simp only [List.mem_cons, List.not_mem_nil, or_false, not_or] at hkey
    rw [take, if_neg hkey.1, if_neg hkey.2.1, if_neg hkey.2.2]
    rfl

lemma Fields.take_collapse (f g : Fields) (m : String × Json) (h : f.take m = .ok g) :
    f.take (m.1, m.2.collapse) = .ok g := by
  obtain ⟨key, j⟩ := m
  have hstring (s : String) : j.asString = .ok s → j.collapse.asString = .ok s :=
    Json.asString_collapse
  rw [take] at h ⊢
  split_ifs at h ⊢
  · exact bind_of_bind (Json.once_of_once hstring) h
  · exact bind_of_bind (Json.once_of_once hstring) h
  · exact bind_of_bind (Json.once_of_once hstring) h
  · exact h

lemma ofJson_collapse {j : Json} {k : ForeignKey} (h : ofJson j = .ok k) :
    ofJson j.collapse = .ok k := by
  rcases j with _ | _ | _ | _ | _ | js | ms
  case array =>
    obtain ⟨fields, hfields, hk⟩ := bind_eq_ok_iff.mp h
    have hfields' := Json.mapM_map_collapse (fun _ _ => Json.asString_collapse) hfields
    rw [Json.collapse_array, ofJson, List.length_map]
    rw [List.map_take] at hfields'
    exact bind_eq_ok_iff.mpr ⟨fields, hfields', hk⟩
  case object =>
    obtain ⟨f, hf, hk⟩ := bind_eq_ok_iff.mp h
    rw [Json.collapse_object]
    exact bind_eq_ok_iff.mpr
      ⟨f, Json.foldlM_map_collapse Fields.take_collapse (Fields.isRecord.foldlM_entries hf), hk⟩
  all_goals cases h

lemma listOfJson_collapse {j : Json} {ks : List ForeignKey} (h : listOfJson j = .ok ks) :
    listOfJson j.collapse = .ok ks := by
  rcases j with _ | _ | _ | _ | _ | js | ms
  case array =>
    rw [Json.collapse_array]
    exact Json.mapM_map_collapse (fun _ _ => ofJson_collapse) h
  all_goals cases h

end ForeignKey

/-! ### Tables -/

namespace Table

/-- The keys of the fields that have been met. -/
def Fields.filled (f : Fields) : List String :=
  (f.columns?.map fun _ => "columns").toList ++ (f.primaryKey?.map fun _ => "primaryKey").toList ++
    (f.foreignKeys?.map fun _ => "foreignKeys").toList

lemma Fields.isRecord (limit : Nat) :
    Json.IsRecord (take limit) ["columns", "primaryKey", "foreignKeys"] filled where
  fill := by
    intro f g key j hkey h
    simp only [List.mem_cons, List.not_mem_nil, or_false] at hkey
    rcases hkey with rfl | rfl | rfl
    all_goals
      obtain ⟨hmet, a, -, rfl⟩ := Json.exists_of_once h
      simp [filled, hmet] <;> tauto
  skip := by
    rintro f ⟨key, j⟩ hkey
    simp only [List.mem_cons, List.not_mem_nil, or_false, not_or] at hkey
    rw [take, if_neg hkey.1, if_neg hkey.2.1, if_neg hkey.2.2]
    rfl

variable {limit limit' : Nat}

lemma Fields.take_collapse (hlimit : limit ≤ limit') (f g : Fields) (m : String × Json)
    (h : f.take limit m = .ok g) : f.take limit' (m.1, m.2.collapse) = .ok g := by
  obtain ⟨key, j⟩ := m
  rw [take] at h ⊢
  split_ifs at h ⊢
  · exact bind_of_bind (Json.once_of_once fun _ => Column.listOfJson_collapse hlimit) h
  · exact bind_of_bind (Json.once_of_once fun _ => Json.asStrings_collapse) h
  · exact bind_of_bind (Json.once_of_once fun _ => ForeignKey.listOfJson_collapse) h
  · exact h

lemma zip_map_collapse (keys : List String) (js : List Json) :
    keys.zip (js.map Json.collapse) = (keys.zip js).map fun m => (m.1, m.2.collapse) := by
  rw [List.zip_map_right]
  rfl

lemma ofJson_collapse (hlimit : limit ≤ limit') {j : Json} {t : Table}
    (h : ofJson limit j = .ok t) : ofJson limit' j.collapse = .ok t := by
  rcases j with _ | _ | _ | _ | _ | js | ms
  case array =>
    obtain ⟨f, hf, ht⟩ := bind_eq_ok_iff.mp h
    rw [Json.collapse_array, ofJson, List.length_map, zip_map_collapse]
    exact bind_eq_ok_iff.mpr
      ⟨f, Json.foldlM_map_collapse (Fields.take_collapse hlimit) hf, ht⟩
  case object =>
    obtain ⟨f, hf, ht⟩ := bind_eq_ok_iff.mp h
    rw [Json.collapse_object]
    exact bind_eq_ok_iff.mpr ⟨f, Json.foldlM_map_collapse (Fields.take_collapse hlimit)
      ((Fields.isRecord limit).foldlM_entries hf), ht⟩
  all_goals cases h

end Table

namespace Catalog

/-- **What is read of tables is also read when the document is collapsed**, and when its columns may
be nested deeper. -/
theorem ofJson_collapse {limit limit' : Nat} (hlimit : limit ≤ limit') {j : Json} {c : Catalog}
    (h : ofJson limit j = .ok c) : ofJson limit' j.collapse = .ok c := by
  rcases j with _ | _ | _ | _ | _ | js | ms
  case object =>
    obtain ⟨es, hes, hc⟩ := bind_eq_ok_iff.mp h
    cases hc
    rw [mapM_eq_ok_iff] at hes
    have hread := OrderedMap.forall₂_entries_ofList
      (R := fun (j : Json) (t : Table) => Table.ofJson limit j = .ok t) <| hes.imp fun m e he => by
        obtain ⟨t, ht, he⟩ := bind_eq_ok_iff.mp he
        cases he
        exact ⟨rfl, ht⟩
    rw [Json.collapse_object]
    refine bind_eq_ok_iff.mpr ⟨(OrderedMap.ofList es).entries, mapM_eq_ok_iff.mpr ?_, ?_⟩
    · rw [List.forall₂_map_left_iff]
      refine hread.imp fun m e he => bind_eq_ok_iff.mpr
        ⟨e.2, Table.ofJson_collapse hlimit he.2, ?_⟩
      simp only [he.1]
      rfl
    · rw [OrderedMap.ofList_entries]
      rfl
  all_goals cases h

end Catalog

end QueryGate
