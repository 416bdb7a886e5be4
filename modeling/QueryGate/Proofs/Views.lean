import Mathlib.Order.Nat
import QueryGate.Proofs.Disks

/-!
What is seen of a disk from one directory: whether the way there is free, what stands there and what
stands directly below it. Requests for the directory and its files depend on nothing else, and those
for another directory of the same depth change nothing of it.
-/

namespace QueryGate.Disk

variable {d e : Disk} {parts there : List String} {name text : String}

/-- A disk as it is seen from a directory. -/
structure View where
  blocked : Bool
  node? : Option Node
  below : OrderedMap String Node

def view (d : Disk) (parts : List String) : View :=
  ⟨d.isBlocked parts, d.node? parts, d.below parts⟩

lemma view_eq_iff : d.view parts = e.view parts ↔
    d.isBlocked parts = e.isBlocked parts ∧ d.node? parts = e.node? parts ∧
      d.below parts = e.below parts := by
  simp [view]

/-! ### Changes below a place -/

lemma below_put_of_ne (h : ∀ name, there ≠ parts ++ [name]) (d : Disk) (n : Node) :
    (d.put there n).below parts = d.below parts :=
  OrderedMap.select_insert_of_ne h n

/-- Making the way to a place puts nothing below it or below another place of its depth. -/
lemma below_prepare (h : there.length ≤ parts.length) (d : Disk) :
    (d.prepare there).below parts = d.below parts := by
  have hway : ∀ k ∈ beginnings there ++ [there], k.length ≤ parts.length := by
    intro k hk
    rcases List.mem_append.mp hk with hk | hk
    · have := length_of_mem_beginnings hk
      omega
    · rwa [List.mem_singleton.mp hk]
  rw [prepare]
  -- all that counts of the way is that its places are not long enough to be below
  generalize beginnings there ++ [there] = way at hway
  induction way generalizing d with
  | nil => rfl
  | cons k way ih =>
    rw [List.foldl_cons, ih _ fun l hl => hway l (List.mem_cons_of_mem _ hl)]
    split
    · rfl
    · exact below_put_of_ne (ne_child_of_length (hway k List.mem_cons_self)) d _

/-- A file that is put into a directory, as it is seen from there. -/
lemma view_put_child (hfile : d.isFile parts = false) (n : Node) :
    ((d.prepare parts).put (parts ++ [name]) n).view parts =
      ⟨d.isBlocked parts, some .directory, (d.below parts).insert name n⟩ := by
  have hblocked : ((d.prepare parts).put (parts ++ [name]) n).isBlocked parts =
      d.isBlocked parts :=
    isBlocked_congr_of_shorter fun k hk => isFile_put_prepare (ne_child_of_length hk.le name) d n
  have hnode : ((d.prepare parts).put (parts ++ [name]) n).node? parts = some .directory := by
    rw [node?_put_of_ne (ne_child_of_length le_rfl name), node?_prepare_self hfile]
  have hbelow : ((d.prepare parts).put (parts ++ [name]) n).below parts =
      (d.below parts).insert name n := by
    rw [← below_prepare le_rfl d]
    exact OrderedMap.select_insert _ (childrenOf parts) name n
  rw [view, hblocked, hnode, hbelow]

lemma view_erase_child (d : Disk) (parts : List String) (name : String) :
    (⟨d.nodes.erase (parts ++ [name])⟩ : Disk).view parts =
      ⟨d.isBlocked parts, d.node? parts, (d.below parts).erase name⟩ := by
  have hblocked : (⟨d.nodes.erase (parts ++ [name])⟩ : Disk).isBlocked parts =
      d.isBlocked parts :=
    isBlocked_congr_of_shorter fun k hk =>
      isFile_congr (node?_erase_of_ne (ne_child_of_length hk.le name) d)
  have hbelow : (⟨d.nodes.erase (parts ++ [name])⟩ : Disk).below parts =
      (d.below parts).erase name :=
    OrderedMap.select_erase d.nodes (childrenOf parts) name
  rw [view, hblocked, node?_erase_of_ne (ne_child_of_length le_rfl name), hbelow]

/-! ### Requests for a directory and its files -/

variable {p q : Path}

lemma isFile_of_view (h : d.view parts = e.view parts) : d.isFile parts = e.isFile parts :=
  isFile_congr (view_eq_iff.mp h).2.1

/-- Below a directory with a name of its own nothing is found but what stands there. -/
lemma node?_child (hparts : parts ≠ []) (d : Disk) (name : String) :
    d.node? (parts ++ [name]) = (d.below parts).get? name := by
  have := List.length_pos_iff.mpr hparts
  rw [node?_of_two_le d (by rw [List.length_append, List.length_singleton]; omega), get?_below]

lemma node?_child_of_view (hparts : parts ≠ []) (h : d.view parts = e.view parts)
    (name : String) : d.node? (parts ++ [name]) = e.node? (parts ++ [name]) := by
  rw [node?_child hparts, node?_child hparts, (view_eq_iff.mp h).2.2]

lemma find_child_of_view (hp : p.parts ≠ []) (h : d.view p.parts = e.view p.parts)
    (name : String) : d.find (p.child name) = e.find (p.child name) := by
  rw [find, find, Path.parts_child, isBlocked_snoc, isBlocked_snoc, (view_eq_iff.mp h).1,
    isFile_of_view h, node?_child_of_view hp h]

lemma read_child_of_view (hp : p.parts ≠ []) (h : d.view p.parts = e.view p.parts)
    (name : String) : d.read (p.child name) = e.read (p.child name) := by
  rw [read, read, find_child_of_view hp h]

lemma list_of_view (h : d.view p.parts = e.view p.parts) : d.list p = e.list p := by
  obtain ⟨hblocked, hnode, hbelow⟩ := view_eq_iff.mp h
  have hfind : d.find p = e.find p := by rw [find, find, hblocked, hnode]
  rw [list, list, hfind, entries_eq_map_below, entries_eq_map_below, hbelow]

lemma place_of_view (hp : p.parts ≠ []) (h : d.view p.parts = e.view p.parts)
    (name text : String) :
    (d.place p name text).map (·.view p.parts) = (e.place p name text).map (·.view p.parts) := by
  obtain ⟨hblocked, hnode, hbelow⟩ := view_eq_iff.mp h
  rw [place, place, ← hblocked, ← isFile_of_view h, ← node?_child_of_view hp h]
  split_ifs with hb hf hn
  · rfl
  · rfl
  · rfl
  · rw [Bool.not_eq_true] at hf
    have hf' : e.isFile p.parts = false := (isFile_of_view h).symm.trans hf
    simp only [Except.map, view_put_child hf, view_put_child hf', hblocked, hbelow]

lemma remove_of_view (hp : p.parts ≠ []) (h : d.view p.parts = e.view p.parts) (name : String) :
    (d.remove (p.child name)).map (fun x => (x.1, x.2.view p.parts)) =
      (e.remove (p.child name)).map fun x => (x.1, x.2.view p.parts) := by
  obtain ⟨hblocked, hnode, hbelow⟩ := view_eq_iff.mp h
  rw [remove, remove, ← find_child_of_view hp h, Path.parts_child]
  rcases d.find (p.child name) with cause | content | _
  · cases cause <;> simp [Except.map, h]
  · simp only [Except.map, view_erase_child, hblocked, hnode, hbelow]
  · rfl

/-! ### Requests for another directory -/

lemma ne_child_of_ne (hne : there ≠ parts) (name name' : String) :
    there ++ [name] ≠ parts ++ [name'] :=
  fun h => hne (List.append_inj' h rfl).1

lemma view_place_of_ne (hlength : q.parts.length = parts.length) (hne : q.parts ≠ parts)
    (h : d.place q name text = .ok e) : e.view parts = d.view parts := by
  obtain ⟨-, -, -, rfl⟩ := place_eq_ok_iff.mp h
  have hplace {k : List String} (hk : k.length ≤ parts.length) : k ≠ q.parts ++ [name] :=
    ne_child_of_length (hk.trans_eq hlength.symm) name
  refine view_eq_iff.mpr ⟨?_, ?_, ?_⟩
  · exact isBlocked_congr_of_shorter fun k hk => isFile_put_prepare (hplace hk.le) d _
  · rw [node?_put_of_ne (hplace le_rfl), node?_prepare, if_neg]
    rintro ⟨hway, -⟩
    rcases List.mem_append.mp hway with hway | hway
    · have := length_of_mem_beginnings hway
      omega
    · exact hne (List.mem_singleton.mp hway).symm
  · rw [below_put_of_ne (ne_child_of_ne hne name), below_prepare hlength.le]

lemma view_remove_of_ne {found : Bool} (hlength : q.parts.length = parts.length)
    (hne : q.parts ≠ parts) (h : d.remove (q.child name) = .ok (found, e)) :
    e.view parts = d.view parts := by
  have hplace {k : List String} (hk : k.length ≤ parts.length) : k ≠ q.parts ++ [name] :=
    ne_child_of_length (hk.trans_eq hlength.symm) name
  rw [remove, Path.parts_child] at h
  split at h
  · cases h
    refine view_eq_iff.mpr ⟨?_, ?_, ?_⟩
    · exact isBlocked_congr_of_shorter fun k hk => isFile_congr (node?_erase_of_ne (hplace hk.le) d)
    · rw [node?_erase_of_ne (hplace le_rfl)]
    · exact OrderedMap.select_erase_of_ne (ne_child_of_ne hne name)
  · cases h
  · cases h
    rfl
  · cases h

end QueryGate.Disk
