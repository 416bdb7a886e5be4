import QueryGate.Catalog.Fingerprint
import QueryGate.Proofs.Codec
import QueryGate.Proofs.Differences

/-!
The canonical text of a catalog tells it apart from all catalogs with other tables, and does not
tell in which order it has them. Catalogs with the same tables do not differ, so a difference shows
in the text.
-/

namespace QueryGate

lemma Table.toJson_injective : Function.Injective Table.toJson := by
  intro s t h
  have hread := Table.ofJson_toJson s Nat.one_pos
  rw [h, Table.ofJson_toJson t Nat.one_pos] at hread
  exact (Except.ok.inj hread).symm

namespace Catalog

variable {c d : Catalog}

lemma sorted_perm (c : Catalog) : c.sorted.Perm c.entries := List.mergeSort_perm _ _

lemma isPlain_canonical (es : List (String × Table)) :
    (Json.object (es.map fun e => (e.1, e.2.toJson))).isPlain = true := by
  rw [Json.isPlain]
  exact Json.membersArePlain_map fun e _ => e.2.isPlain_toJson

lemma sorted_eq_of_canonical_eq (h : c.canonical = d.canonical) : c.sorted = d.sorted := by
  have hread := Json.parse?_compact (isPlain_canonical c.sorted)
  rw [← canonical, h, canonical, Json.parse?_compact (isPlain_canonical d.sorted),
    Option.some.injEq, Json.object.injEq] at hread
  refine List.map_injective_iff.mpr ?_ hread.symm
  rintro ⟨name, s⟩ ⟨name', t⟩ he
  obtain ⟨hname, hjson⟩ := Prod.mk.inj he
  exact Prod.ext hname (Table.toJson_injective hjson)

/-- **The canonical text tells catalogs apart.** -/
theorem perm_of_canonical_eq (h : c.canonical = d.canonical) : c.entries.Perm d.entries := by
  have hsorted := c.sorted_perm
  rw [sorted_eq_of_canonical_eq h] at hsorted
  exact hsorted.symm.trans d.sorted_perm

/-! ### The order of tables -/

lemma pairwise_sorted (c : Catalog) : c.sorted.Pairwise fun a b => a.1 ≤ b.1 := by
  have htrans (a b e : String × Table) :
      decide (a.1 ≤ b.1) = true → decide (b.1 ≤ e.1) = true → decide (a.1 ≤ e.1) = true := by
    simpa only [decide_eq_true_eq] using fun h h' => String.le_trans h h'
  have htotal (a b : String × Table) : (decide (a.1 ≤ b.1) || decide (b.1 ≤ a.1)) = true := by
    simpa only [Bool.or_eq_true, decide_eq_true_eq] using String.le_total a.1 b.1
  have hsorted : c.sorted.Pairwise fun a b => decide (a.1 ≤ b.1) = true :=
    List.pairwise_mergeSort htrans htotal c.entries
  simpa only [decide_eq_true_eq] using hsorted

/-- Names are met once, so they settle the order. -/
lemma sorted_eq_of_perm (h : c.entries.Perm d.entries) : c.sorted = d.sorted := by
  have hperm : c.sorted.Perm d.sorted := (c.sorted_perm.trans h).trans d.sorted_perm.symm
  refine List.Perm.eq_of_pairwise (fun a b ha hb hab hba => ?_) c.pairwise_sorted
    d.pairwise_sorted hperm
  rw [c.sorted_perm.mem_iff] at ha
  rw [d.sorted_perm.mem_iff, ← h.mem_iff] at hb
  exact List.inj_on_of_nodup_map c.keys_nodup ha hb (String.le_antisymm hab hba)

lemma canonical_eq_iff_perm : c.canonical = d.canonical ↔ c.entries.Perm d.entries := by
  constructor
  · exact perm_of_canonical_eq
  · intro h
    rw [canonical, canonical, sorted_eq_of_perm h]

lemma fingerprint_eq_of_perm (h : c.entries.Perm d.entries) : c.fingerprint = d.fingerprint := by
  rw [fingerprint, fingerprint, canonical_eq_iff_perm.mpr h]

/-- **The canonical text is the content of a catalog**: two catalogs have one text just when they
have equal tables under the same names. So the order of tables does not count for the fingerprint,
and catalogs with other tables have another fingerprint unless two texts have one checksum. -/
theorem canonical_eq_iff (c d : Catalog) :
    (c.canonical = d.canonical ↔ ∀ name, c.get? name = d.get? name) ∧
      (c.entries.Perm d.entries → c.fingerprint = d.fingerprint) ∧
      (c.fingerprint = d.fingerprint → (∀ name, c.get? name = d.get? name) ∨
        c.canonical ≠ d.canonical ∧ checksum c.canonical = checksum d.canonical) := by
  have hiff : c.canonical = d.canonical ↔ ∀ name, c.get? name = d.get? name :=
    canonical_eq_iff_perm.trans OrderedMap.perm_entries_iff
  refine ⟨hiff, fingerprint_eq_of_perm, fun h => ?_⟩
  by_cases hsame : c.canonical = d.canonical
  · exact .inl (hiff.mp hsame)
  · exact .inr ⟨hsame, h⟩

/-- Two tables in both orders. -/
theorem fingerprint_swapped :
    fingerprint (.ofList [("users", ⟨[.ofName "id"], ["id"], []⟩), ("orders", .empty)]) =
      fingerprint (.ofList [("orders", .empty), ("users", ⟨[.ofName "id"], ["id"], []⟩)]) :=
  (canonical_eq_iff _ _).2.1 (by decide +kernel)

end Catalog

namespace Difference

/-- Catalogs with the same tables do not differ, in whatever order they have them. -/
lemma isEmpty_of_perm {c d : Catalog} (h : c.entries.Perm d.entries) :
    (between c d).isEmpty = true := by
  refine isEmpty_between_iff.mpr ⟨fun name => (h.map Prod.fst).mem_iff, fun name t u ht hu => ?_⟩
  rw [OrderedMap.perm_entries_iff.mp h, hu, Option.some.injEq] at ht
  rw [ht]

/-- **A difference shows in the canonical text.** -/
theorem canonical_ne_of_difference {c d : Catalog} (h : (between c d).isEmpty = false) :
    c.canonical ≠ d.canonical := by
  intro e
  rw [isEmpty_of_perm (Catalog.perm_of_canonical_eq e)] at h
  cases h

end Difference

end QueryGate
