import QueryGate.Disk
import QueryGate.Proofs.Selections

/-!
What a disk has at a place after something was put on it, and how a place below another is found.
-/

namespace QueryGate

namespace Path

lemma parts_child (p : Path) (name : String) : (p.child name).parts = p.parts ++ [name] :=
  (List.append_assoc _ _ _).symm

lemma toText_child (p : Path) (name : String) : (p.child name).toText = joinText p.toText name := by
  simp [toText, child]

lemma toText_child_ne (p : Path) {name : String} (h : name ≠ "") :
    (p.child name).toText.isEmpty = false := by
  have hjoin (path : String) : joinText path name ≠ "" := by
    rw [joinText]
    split <;> simp [h]
  rw [toText_child]
  simpa using hjoin p.toText

end Path

namespace Disk

/-! ### The way to a place -/

lemma beginnings_snoc (parts : List String) (part : String) :
    beginnings (parts ++ [part]) = beginnings parts ++ [parts] := by
  induction parts with
  | nil => rfl
  | cons p parts ih =>
    rw [List.cons_append, beginnings, beginnings, ih]
    simp

lemma length_of_mem_beginnings {there parts : List String} (h : there ∈ beginnings parts) :
    there.length < parts.length := by
  induction parts generalizing there with
  | nil => cases h
  | cons p parts ih =>
    rw [beginnings, List.mem_cons, List.mem_map] at h
    rcases h with rfl | ⟨rest, hrest, rfl⟩
    · simp
    · simpa using ih hrest

lemma isBlocked_snoc (d : Disk) (parts : List String) (part : String) :
    d.isBlocked (parts ++ [part]) = (d.isBlocked parts || d.isFile parts) := by
  simp [isBlocked, beginnings_snoc, List.any_append]

lemma isBlocked_congr {d e : Disk} {parts : List String}
    (h : ∀ there ∈ beginnings parts, d.isFile there = e.isFile there) :
    d.isBlocked parts = e.isBlocked parts := by
  rw [isBlocked, isBlocked, Bool.eq_iff_iff, List.any_eq_true, List.any_eq_true]
  constructor
  · rintro ⟨there, hmem, hf⟩
    exact ⟨there, hmem, by rw [← h there hmem]; exact hf⟩
  · rintro ⟨there, hmem, hf⟩
    exact ⟨there, hmem, by rw [h there hmem]; exact hf⟩

lemma isBlocked_congr_of_shorter {d e : Disk} {parts : List String}
    (h : ∀ k : List String, k.length < parts.length → d.isFile k = e.isFile k) :
    d.isBlocked parts = e.isBlocked parts :=
  isBlocked_congr fun k hk => h k (length_of_mem_beginnings hk)

lemma ne_child_of_length {there parts : List String} (h : there.length ≤ parts.length)
    (name : String) : there ≠ parts ++ [name] := by
  rintro rfl
  rw [List.length_append, List.length_singleton] at h
  omega

lemma isFile_eq_true_iff {d : Disk} {parts : List String} :
    d.isFile parts = true ↔ ∃ content, d.node? parts = some (.file content) := by
  rw [isFile]
  split
  · next content h => simp [h]
  · next h => simpa using h

lemma isFile_congr {d e : Disk} {parts : List String} (h : d.node? parts = e.node? parts) :
    d.isFile parts = e.isFile parts := by
  rw [isFile, isFile, h]

lemma find_child {d : Disk} {p : Path} {name : String} (hname : name ≠ "")
    (hclear : d.isBlocked p.parts = false) (hfile : d.isFile p.parts = false) :
    d.find (p.child name) = match d.node? (p.parts ++ [name]) with
      | some n => .ok n
      | none => .error .notFound := by
  rw [find, Path.parts_child, isBlocked_snoc, hclear, hfile, Path.toText_child_ne p hname]
  rcases d.node? (p.parts ++ [name]) with _ | n <;> rfl

/-! ### Places -/

lemma node?_of_two_le (d : Disk) {parts : List String} (h : 2 ≤ parts.length) :
    d.node? parts = d.nodes.get? parts := by
  have h1 : parts ≠ [] := by
    rintro rfl
    simp at h
  have h2 : parts ≠ ["/"] := by
    rintro rfl
    simp at h
  simp [node?, h1, h2]

lemma isFile_of_get?_eq_none {d : Disk} {parts : List String} (h : d.nodes.get? parts = none) :
    d.isFile parts = false := by
  rw [isFile, node?, h]
  split
  · next content h =>
    split at h
    · cases h
    · cases h
  · rfl

lemma node?_put_of_ne {k there : List String} (h : k ≠ there) (d : Disk) (n : Node) :
    (d.put there n).node? k = d.node? k := by
  simp [node?, put, OrderedMap.get?_insert, h]

lemma get?_put (d : Disk) (there k : List String) (n : Node) :
    (d.put there n).nodes.get? k = if k = there then some n else d.nodes.get? k :=
  OrderedMap.get?_insert d.nodes there k n

/-- Where nothing stands there may be anything. -/
lemma node?_put_of_none {d : Disk} {there : List String} (h : d.node? there = none) (n : Node) :
    (d.put there n).node? there = some n := by
  rw [node?] at h ⊢
  split at h
  · cases h
  · next hroot => rw [if_neg hroot, get?_put, if_pos rfl]

lemma node?_foldl_directories (d : Disk) (theres : List (List String)) (k : List String) :
    (theres.foldl (fun d there =>
      if (d.node? there).isSome then d else d.put there .directory) d).node? k =
      if k ∈ theres ∧ d.node? k = none then some .directory else d.node? k := by
  induction theres generalizing d with
  | nil => simp
  | cons there theres ih =>
    rw [List.foldl_cons, ih]
    rcases hthere : d.node? there with _ | n
    · simp only [Option.isSome_none, Bool.false_eq_true, if_false]
      by_cases hk : k = there
      · subst hk
        simp [node?_put_of_none hthere, hthere]
      · simp [node?_put_of_ne hk, hk]
    · simp only [Option.isSome_some, if_true]
      by_cases hk : k = there
      · subst hk
        simp [hthere]
      · simp [hk]

lemma node?_prepare (d : Disk) (parts k : List String) :
    (d.prepare parts).node? k =
      if k ∈ beginnings parts ++ [parts] ∧ d.node? k = none then some .directory
      else d.node? k :=
  node?_foldl_directories d _ k

/-- Directories that are made on the way are no files. -/
lemma isFile_prepare (d : Disk) (parts k : List String) :
    (d.prepare parts).isFile k = d.isFile k := by
  rw [Bool.eq_iff_iff, isFile_eq_true_iff, isFile_eq_true_iff, node?_prepare]
  split
  · next h => simp [h.2]
  · rfl

/-- A place keeps what it was, a file or not, when another one changes. -/
lemma isFile_put_prepare {k parts there : List String} (h : k ≠ there) (d : Disk) (n : Node) :
    ((d.prepare parts).put there n).isFile k = d.isFile k :=
  (isFile_congr (node?_put_of_ne h _ n)).trans (isFile_prepare d parts k)

lemma node?_prepare_self {d : Disk} {parts : List String} (h : d.isFile parts = false) :
    (d.prepare parts).node? parts = some .directory := by
  rw [node?_prepare]
  split
  · rfl
  · next hnot =>
    rcases hn : d.node? parts with _ | _ | _
    · exact absurd ⟨by simp, hn⟩ hnot
    · rw [isFile, hn] at h
      cases h
    · rfl

lemma node?_prepare_of_some {d : Disk} {k : List String} {n : Node} (h : d.node? k = some n)
    (parts : List String) : (d.prepare parts).node? k = some n := by
  rw [node?_prepare, if_neg (by simp [h]), h]

lemma node?_prepare_of_lt (d : Disk) {parts k : List String} (h : parts.length < k.length) :
    (d.prepare parts).node? k = d.node? k := by
  rw [node?_prepare, if_neg]
  rintro ⟨hmem, -⟩
  rcases List.mem_append.mp hmem with hmem | hmem
  · have := length_of_mem_beginnings hmem
    omega
  · rw [List.mem_singleton.mp hmem] at h
    omega

lemma node?_erase_of_ne {k there : List String} (h : k ≠ there) (d : Disk) :
    (⟨d.nodes.erase there⟩ : Disk).node? k = d.node? k := by
  simp [node?, OrderedMap.get?_erase, h]

/-! ### Files -/

lemma node?_put (d : Disk) {there : List String} (h : 2 ≤ there.length) (n : Node)
    (k : List String) : (d.put there n).node? k = if k = there then some n else d.node? k := by
  split
  · next e => rw [e, node?_of_two_le _ h, get?_put, if_pos rfl]
  · next e => exact node?_put_of_ne e d n

lemma fromUTF8?_toUTF8 (text : String) : String.fromUTF8? text.toUTF8 = some text := by
  have h : text.toUTF8.IsValidUTF8 := text.isValidUTF8
  rw [String.fromUTF8?, dif_pos h]
  rfl

lemma read_file {d : Disk} {p : Path} {content : ByteArray} {text : String}
    (h : d.find p = .ok (.file content)) (htext : String.fromUTF8? content = some text) :
    d.read p = .ok text := by
  rw [read, h]
  simp only [bind, Except.bind, htext]
  rfl

lemma read_missing {d : Disk} {p : Path} (h : d.find p = .error .notFound) :
    d.read p = .error .notFound := by
  rw [read, h]
  rfl

lemma exists_file_of_read {d : Disk} {p : Path} {text : String} (h : d.read p = .ok text) :
    ∃ content, d.find p = .ok (.file content) := by
  rw [read] at h
  rcases hfind : d.find p with e | n
  · rw [hfind] at h
    cases h
  · rw [hfind] at h
    rcases n with content | _
    · exact ⟨content, rfl⟩
    · cases h

/-- A file comes to a place that is free of directories. -/
lemma place_eq_ok_iff {d e : Disk} {p : Path} {name text : String} :
    d.place p name text = .ok e ↔ d.isBlocked p.parts = false ∧ d.isFile p.parts = false ∧
      d.node? (p.parts ++ [name]) ≠ some .directory ∧
      e = (d.prepare p.parts).put (p.parts ++ [name]) (.file text.toUTF8) := by
  rw [place]
  split_ifs with hclear hfile hplace
  · simp [hclear]
  · simp [hfile]
  · simp [hplace]
  · simp [hclear, hfile, hplace, eq_comm]

/-- A file that is read can be put in place again. -/
lemma exists_place {d : Disk} {p : Path} {name old : String}
    (h : d.read (p.child name) = .ok old) (text : String) :
    ∃ e, d.place p name text = .ok e := by
  obtain ⟨content, hfind⟩ := exists_file_of_read h
  rw [find, Path.parts_child, isBlocked_snoc] at hfind
  split_ifs at hfind with hclear htext
  rw [Bool.not_eq_true, Bool.or_eq_false_iff] at hclear
  rcases hnode : d.node? (p.parts ++ [name]) with _ | n
  · rw [hnode] at hfind
    cases hfind
  · rw [hnode] at hfind
    cases hfind
    exact ⟨_, place_eq_ok_iff.mpr ⟨hclear.1, hclear.2, by simp [hnode], rfl⟩⟩

lemma two_le_child {parts : List String} (h : parts ≠ []) (name : String) :
    2 ≤ (parts ++ [name]).length := by
  have := List.length_pos_iff.mpr h
  rw [List.length_append, List.length_singleton]
  omega

/-- What was put in place is read there. -/
lemma read_place {d e : Disk} {p : Path} {name text : String} (hp : p.parts ≠ [])
    (hname : name ≠ "") (h : d.place p name text = .ok e) : e.read (p.child name) = .ok text := by
  obtain ⟨hclear, hfile, -, rfl⟩ := place_eq_ok_iff.mp h
  have hkept {k : List String} (hk : k.length ≤ p.parts.length) :
      ((d.prepare p.parts).put (p.parts ++ [name]) (.file text.toUTF8)).isFile k =
        d.isFile k := isFile_put_prepare (ne_child_of_length hk name) d _
  have hblocked := isBlocked_congr_of_shorter fun k hk => hkept (Nat.le_of_lt hk)
  have hfind := find_child hname (hblocked.trans hclear) ((hkept (Nat.le_refl _)).trans hfile)
  rw [node?_put _ (two_le_child hp name), if_pos rfl] at hfind
  exact read_file hfind (fromUTF8?_toUTF8 text)

/-! ### Lists -/

/-- The name of a place that is directly below some parts. -/
def nameBelow? (parts there : List String) : Option String :=
  if there.dropLast = parts then there.getLast? else none

lemma nameBelow?_eq_some_iff {parts there : List String} {name : String} :
    nameBelow? parts there = some name ↔ there = parts ++ [name] := by
  rw [nameBelow?]
  constructor
  · intro h
    split at h
    · next hparts =>
      obtain ⟨front, rfl⟩ := List.getLast?_eq_some_iff.mp h
      rw [List.dropLast_concat] at hparts
      rw [hparts]
    · cases h
  · rintro rfl
    simp

/-- The places directly below some parts, by their names. -/
def childrenOf (parts : List String) : OrderedMap.Selection (List String) String where
  name? := nameBelow? parts
  key name := parts ++ [name]
  name?_eq_some_iff := nameBelow?_eq_some_iff

/-- What stands directly below some parts. -/
def below (d : Disk) (parts : List String) : OrderedMap String Node :=
  d.nodes.select (childrenOf parts)

lemma get?_below (d : Disk) (parts : List String) (name : String) :
    (d.below parts).get? name = d.nodes.get? (parts ++ [name]) :=
  OrderedMap.get?_select d.nodes (childrenOf parts) name

lemma name_entry (name : String) (n : Node) : (Node.entry name n).name = name := by
  cases n <;> rfl

lemma entries_eq_map_below (d : Disk) (parts : List String) :
    d.entries parts = (d.below parts).entries.map fun e => Node.entry e.1 e.2 := by
  have hnamed : (d.below parts).entries =
      d.nodes.entries.filterMap fun e => (nameBelow? parts e.1).map (·, e.2) := rfl
  rw [entries, hnamed, List.map_filterMap]
  refine List.filterMap_congr ?_
  rintro ⟨there, n⟩ _
  by_cases h : there.dropLast = parts
  · simp [nameBelow?, h, Function.comp_def]
  · simp [nameBelow?, h]

lemma mem_entries_iff {d : Disk} {parts : List String} {e : Entry} :
    e ∈ d.entries parts ↔
      ∃ n, d.nodes.get? (parts ++ [e.name]) = some n ∧ e = Node.entry e.name n := by
  rw [entries_eq_map_below, List.mem_map]
  constructor
  · rintro ⟨⟨name, n⟩, hmem, rfl⟩
    rw [name_entry, ← get?_below]
    exact ⟨n, OrderedMap.get?_eq_some_iff.mpr hmem, rfl⟩
  · rintro ⟨n, hget, he⟩
    rw [← get?_below] at hget
    exact ⟨(e.name, n), OrderedMap.get?_eq_some_iff.mp hget, he.symm⟩

lemma nodup_entries (d : Disk) (parts : List String) :
    ((d.entries parts).map Entry.name).Nodup := by
  have hnames : (d.entries parts).map Entry.name = (d.below parts).keys := by
    rw [entries_eq_map_below, List.map_map, OrderedMap.keys]
    exact List.map_congr_left fun e _ => name_entry e.1 e.2
  rw [hnames]
  exact (d.below parts).keys_nodup

end Disk

end QueryGate
