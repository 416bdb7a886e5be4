import Mathlib.Data.List.Lex
import Mathlib.Data.List.Nodup
import Mathlib.Data.Prod.Lex
import Mathlib.Data.String.Basic
import QueryGate.Archive

/-!
The order of listed archives is a linear order on times and names. A list of snapshots whose names
differ has one order only, whatever order a directory gives them in.
-/

namespace QueryGate

lemma Segment.text_injective : Function.Injective Segment.text := by
  rintro ⟨m, hm⟩ ⟨n, hn⟩ h
  cases h
  rfl

namespace Timestamp

lemma earlier_iff {as bs : List Int} (h : as.length = bs.length) :
    earlier as bs = true ↔ as < bs := by
  induction as generalizing bs with
  | nil =>
    rw [List.length_nil, eq_comm, List.length_eq_zero_iff] at h
    simp [h, earlier]
  | cons a as ih =>
    rcases bs with _ | ⟨b, bs⟩
    · cases h
    · rw [List.length_cons, List.length_cons, Nat.add_right_cancel_iff] at h
      simp [earlier, ih h, List.cons_lt_cons_iff]

lemma before_iff {s t : Timestamp} : s.before t = true ↔ s.parts < t.parts := earlier_iff rfl

end Timestamp

namespace Archive

namespace Listed

/-- What snapshots are ordered by: later times and smaller names come first. -/
def key (a : Listed) : (List Int)ᵒᵈ ×ₗ String := toLex (OrderDual.toDual a.updated.parts, a.name)

/-- **Listed archives are in a linear order.** -/
theorem before_iff {a b : Listed} : a.before b = true ↔ a.key ≤ b.key := by
  rw [before, key, key, Prod.Lex.toLex_le_toLex]
  simp only [Timestamp.before_iff, OrderDual.toDual_lt_toDual, OrderDual.toDual_inj]
  rcases lt_trichotomy a.updated.parts b.updated.parts with h | h | h
  · simp [h, h.not_gt, h.ne]
  · simp [h]
  · simp [h]

lemma sorted (ls : List Listed) : (ls.mergeSort before).Pairwise fun a b => a.before b = true := by
  refine List.pairwise_mergeSort (fun a b c => ?_) (fun a b => ?_) ls
  · rw [before_iff, before_iff, before_iff]
    exact le_trans
  · rw [Bool.or_eq_true, before_iff, before_iff]
    exact le_total a.key b.key

/-- Names that differ settle the order of snapshots. -/
lemma mergeSort_eq_of_perm {ls ms : List Listed} (hnames : (ls.map name).Nodup)
    (h : ls.Perm ms) : ls.mergeSort before = ms.mergeSort before := by
  have hperm : (ls.mergeSort before).Perm (ms.mergeSort before) :=
    ((List.mergeSort_perm ls before).trans h).trans (List.mergeSort_perm ms before).symm
  refine List.Perm.eq_of_pairwise (fun a b ha hb hab hba => ?_) (sorted ls) (sorted ms) hperm
  have hkey : a.key = b.key := le_antisymm (before_iff.mp hab) (before_iff.mp hba)
  have hname : a.name = b.name := congrArg (fun k => (ofLex k).2) hkey
  rw [List.mem_mergeSort] at ha
  rw [List.mem_mergeSort, ← h.mem_iff] at hb
  exact List.inj_on_of_nodup_map hnames ha hb hname

end Listed

/-! ### Names of documents -/

lemma dropSuffix?_eq_some_iff {ending cs ds : List Char} :
    Text.dropSuffix? ending cs = some ds ↔ cs = ds ++ ending := by
  rw [Text.dropSuffix?]
  constructor
  · intro h
    split at h
    · next hs =>
      obtain ⟨es, rfl⟩ := List.isSuffixOf_iff_suffix.mp hs
      cases h
      simp
    · cases h
  · rintro rfl
    have hs : ending.isSuffixOf (ds ++ ending) = true :=
      List.isSuffixOf_iff_suffix.mpr (List.suffix_append ds ending)
    rw [if_pos hs]
    simp

lemma documentName?_eq_some_iff {file name : String} :
    documentName? file = some name ↔ name ≠ "" ∧ file = name ++ extension := by
  have hfile : file = name ++ extension ↔ file.toList = name.toList ++ extension.toList := by
    rw [← String.toList_inj, String.toList_append]
  rw [hfile, ← dropSuffix?_eq_some_iff, documentName?]
  rcases h : Text.dropSuffix? extension.toList file.toList with _ | ds
  · simp
  · rcases ds with _ | ⟨c, cs⟩
    · refine ⟨fun e => ?_, fun ⟨hne, e⟩ => absurd ?_ hne⟩
      · cases e
      · rw [← String.toList_inj, ← Option.some.inj e]
        rfl
    · simp only [Option.some.injEq]
      constructor
      · rintro rfl
        simp
      · rintro ⟨-, e⟩
        rw [e, String.ofList_toList]

lemma text_ne_empty (n : Segment) : n.text ≠ "" := by
  intro h
  have hu := n.usable
  rw [h] at hu
  exact absurd hu (by decide)

lemma documentName?_fileName (n : Segment) : documentName? (fileName n) = some n.text :=
  documentName?_eq_some_iff.mpr ⟨text_ne_empty n, rfl⟩

lemma fileName_ne_empty (n : Segment) : fileName n ≠ "" := by
  intro h
  have hname := documentName?_fileName n
  rw [h] at hname
  exact absurd hname (by simp [documentName?, Text.dropSuffix?, extension])

lemma fileName_injective : Function.Injective fileName := by
  intro m n h
  have htext : some m.text = some n.text := by
    rw [← documentName?_fileName, h, documentName?_fileName]
  exact Segment.text_injective (Option.some.inj htext)

end Archive

end QueryGate
