import Mathlib.Tactic.Common
import QueryGate.Timestamp.Reading

/-!
Instants come back from the form in which documents hold them.
-/

namespace QueryGate.Timestamp

/-! ### Numbers with leading zeros -/

lemma isDigit_of_mem_pad {width n : Nat} {c : Char} (h : c ∈ pad width n) : c.isDigit = true := by
  rw [pad, List.mem_append] at h
  rcases h with h | h
  · rw [(List.mem_replicate.mp h).2]
    decide
  · exact Nat.isDigit_of_mem_toDigits (by decide) (by decide) h

lemma digitsValue_pad (width n : Nat) : Numeral.digitsValue (pad width n) = n := by
  have h := Nat.ofDigitChars_append (b := 10)
    (l := List.replicate (width - (Nat.toDigits 10 n).length) '0') (m := Nat.toDigits 10 n) 0
  rw [Nat.ofDigitChars_replicate_zero, Nat.mul_zero, Nat.ofDigitChars_ten_toDigits] at h
  exact h

lemma length_pad {width n : Nat} (hw : 0 < width) (hn : n < Nat.pow 10 width) :
    (pad width n).length = width := by
  have := (Nat.length_toDigits_le_iff (b := 10) (by decide) hw).mpr hn
  rw [pad, List.length_append, List.length_replicate]
  omega

lemma pad_ne_nil (width n : Nat) : pad width n ≠ [] := by
  rw [pad]
  exact List.append_ne_nil_of_right_ne_nil _ Nat.toDigits_ne_nil

lemma takeWhile_pad (width n : Nat) {rest : List Char}
    (h : ∀ c ∈ rest.head?, c.isDigit = false) :
    (pad width n ++ rest).takeWhile Char.isDigit = pad width n ∧
      (pad width n ++ rest).dropWhile Char.isDigit = rest := by
  have hall : ∀ c ∈ pad width n, c.isDigit = true := fun c => isDigit_of_mem_pad
  have hrest : rest.takeWhile Char.isDigit = [] ∧ rest.dropWhile Char.isDigit = rest := by
    rcases rest with _ | ⟨c, rest⟩
    · exact ⟨rfl, rfl⟩
    · have := h c rfl
      simp [this]
  rw [List.takeWhile_append_of_pos hall, List.dropWhile_append_of_pos hall, hrest.1, hrest.2,
    List.append_nil]
  exact ⟨rfl, rfl⟩

lemma trimStart_of_not_blank {c : Char} (hc : Text.isBlank c = false) (cs : List Char) :
    Text.trimStart (c :: cs) = c :: cs :=
  List.dropWhile_cons_of_neg (by simp [hc])

lemma not_isBlank_of_isDigit {c : Char} (h : c.isDigit = true) : Text.isBlank c = false := by
  have hn : 48 ≤ c.toNat ∧ c.toNat ≤ 57 := by
    simpa [Char.isDigit, UInt32.le_iff_toNat_le, ← Char.toNat_val] using h
  simp only [Text.isBlank, Bool.or_eq_false_iff, Bool.and_eq_false_iff, decide_eq_false_iff_not,
    beq_eq_false_iff_ne]
  omega

lemma trimStart_pad (width n : Nat) (rest : List Char) :
    Text.trimStart (pad width n ++ rest) = pad width n ++ rest := by
  obtain ⟨c, cs, h⟩ := List.exists_cons_of_ne_nil (pad_ne_nil width n)
  have hc : c.isDigit = true := isDigit_of_mem_pad (h ▸ List.mem_cons_self)
  rw [h]
  exact trimStart_of_not_blank (not_isBlank_of_isDigit hc) _

lemma readNumber?_pad {width n : Nat} (hw : 0 < width) (hn : n < Nat.pow 10 width) (rest : List Char) :
    readNumber? width (pad width n ++ rest) = some (n, rest) := by
  have hlen := length_pad hw hn
  have htake : ((pad width n ++ rest).take width).takeWhile Char.isDigit = pad width n := by
    rw [List.take_left' hlen]
    have hall : ∀ c ∈ pad width n, c.isDigit = true := fun c => isDigit_of_mem_pad
    rw [← List.append_nil (pad width n), List.takeWhile_append_of_pos hall]
    rfl
  have hne : (pad width n).isEmpty = false := by simp [pad_ne_nil]
  rw [readNumber?]
  simp only [trimStart_pad, htake, hne, Bool.false_eq_true, if_false, digitsValue_pad]
  rw [List.drop_left]

lemma readMark?_cons {mark : Char} (h : Text.isBlank mark = false) (cs : List Char) :
    readMark? mark (mark :: cs) = some cs := by
  rw [readMark?, trimStart_of_not_blank h]
  exact if_pos rfl

/-! ### The parts of an instant -/

lemma head?_pad_isDigit (width n : Nat) (rest : List Char) :
    (pad width n ++ rest).head?.any Char.isDigit = true := by
  obtain ⟨c, cs, h⟩ := List.exists_cons_of_ne_nil (pad_ne_nil width n)
  have hc : c.isDigit = true := isDigit_of_mem_pad (h ▸ List.mem_cons_self)
  rw [h]
  simpa using hc

lemma readYear?_writeYear (y : Int) {rest : List Char}
    (h : ∀ c ∈ rest.head?, c.isDigit = false) :
    readYear? (writeYear y ++ rest) = some (y, rest) := by
  rw [writeYear]
  split
  · next hy =>
    have hlt : y.toNat < 10000 := by omega
    have hnum : readNumber? 4 (pad 4 y.toNat ++ rest) = some (y.toNat, rest) :=
      readNumber?_pad (by decide) hlt rest
    have hdigit := head?_pad_isDigit 4 y.toNat rest
    rw [readYear?, trimStart_pad]
    split
    · next e =>
      rw [e] at hdigit
      exact Bool.noConfusion hdigit
    · next e =>
      rw [e] at hdigit
      exact Bool.noConfusion hdigit
    · rw [hnum]
      simp
      omega
  · next hy =>
    obtain ⟨h1, h2⟩ := takeWhile_pad 4 y.natAbs h
    split
    · rw [List.cons_append, readYear?, trimStart_of_not_blank (by decide)]
      simp only [head?_pad_isDigit, if_true, h1, h2, digitsValue_pad]
      have hvalue : -(y.natAbs : Int) = y := by omega
      rw [hvalue]
    · rw [List.cons_append, readYear?, trimStart_of_not_blank (by decide)]
      simp only [head?_pad_isDigit, if_true, h1, h2, digitsValue_pad]
      simp
      omega

lemma readFraction?_pad {k n : Nat} (hk : 0 < k) (hk9 : k ≤ 9) (hn : n < Nat.pow 10 k) {c : Char}
    (hc : c.isDigit = false) (rest : List Char) :
    readFraction? ('.' :: (pad k n ++ c :: rest)) = some (n * Nat.pow 10 (9 - k), c :: rest) := by
  have hrest : ∀ d ∈ (c :: rest).head?, d.isDigit = false := by simpa using hc
  obtain ⟨h1, h2⟩ := takeWhile_pad k n hrest
  have hlen := length_pad hk hn
  have hne : (pad k n).isEmpty = false := by simp [pad_ne_nil]
  have htake : (pad k n).take 9 = pad k n := List.take_of_length_le (by omega)
  rw [readFraction?]
  simp only [h1, h2, hne, Bool.false_eq_true, if_false, htake, hlen, digitsValue_pad]

/-- The fewest digits that are exact are enough. -/
lemma readFraction?_writeFraction {n : Nat} (hn : n < 1000000000) {c : Char} (hc : c.isDigit = false)
    (hpoint : c ≠ '.') (rest : List Char) :
    readFraction? (writeFraction n ++ c :: rest) = some (n, c :: rest) := by
  rw [writeFraction]
  split
  · next h =>
    rw [List.nil_append, h, readFraction?]
    rintro cs e
    exact hpoint (List.cons.inj e).1
  split
  · have hlt : n / 1000000 < 1000 := by omega
    rw [List.cons_append, readFraction?_pad (by decide) (by decide) hlt hc]
    simp
    omega
  split
  · have hlt : n / 1000 < 1000000 := by omega
    rw [List.cons_append, readFraction?_pad (by decide) (by decide) hlt hc]
    simp
    omega
  · rw [List.cons_append, readFraction?_pad (by decide) (by decide) hn hc]
    simp

lemma toUtc_zero {m : Moment} (h : m.isValid = true) : m.toUtc 0 = m := by
  simp only [Moment.isValid, Bool.and_eq_true, decide_eq_true_eq] at h
  have h1 : ¬ ((m.hour * 60 + m.minute : Int) - 0 < 0) := by omega
  have h2 : ¬ (1440 ≤ (m.hour * 60 + m.minute : Int) - 0) := by omega
  have h3 : ((m.hour * 60 + m.minute : Int) - 0).toNat / 60 = m.hour := by omega
  have h4 : ((m.hour * 60 + m.minute : Int) - 0).toNat % 60 = m.minute := by omega
  rw [Moment.toUtc]
  simp only [h1, h2, if_false, h3, h4]

lemma bind_eq_some {α β : Type} {x : Option α} {f : α → Option β} {a : α} {b : β}
    (hx : x = some a) (h : f a = some b) : x.bind f = some b :=
  Option.bind_eq_some_iff.mpr ⟨a, hx, h⟩

/-- The parts of an instant are read one after another. -/
lemma readChars?_write {m : Moment} (hm : m.isValid = true) :
    readChars? (writeYear m.year ++ '-' :: (pad 2 m.month ++ '-' :: (pad 2 m.day ++
      'T' :: (pad 2 m.hour ++ ':' :: (pad 2 m.minute ++ ':' :: (pad 2 m.second ++
        (writeFraction m.nanosecond ++ ['Z']))))))) = some ⟨m, hm⟩ := by
  have hv := hm
  simp only [Moment.isValid, Bool.and_eq_true, decide_eq_true_eq] at hv
  have hdays : Moment.daysIn m.year m.month ≤ 31 := by
    rw [Moment.daysIn]
    split_ifs <;> omega
  have hdash : Text.isBlank '-' = false := by decide
  have hcolon : Text.isBlank ':' = false := by decide
  have hpair {n : Nat} (hn : n < 100) (rest : List Char) :
      readNumber? 2 (pad 2 n ++ rest) = some (n, rest) := readNumber?_pad (by decide) hn rest
  have hfraction : readFraction? (writeFraction m.nanosecond ++ ['Z']) =
      some (m.nanosecond, ['Z']) :=
    readFraction?_writeFraction (by omega) (by decide) (by decide) []
  have hzone : readOffset? (Text.trimStart ['Z']) = some (0, []) := by decide
  rw [readChars?]
  refine bind_eq_some (readYear?_writeYear m.year (by simp)) ?_
  refine bind_eq_some (readMark?_cons hdash _) ?_
  refine bind_eq_some (hpair (by omega) _) ?_
  refine bind_eq_some (readMark?_cons hdash _) ?_
  refine bind_eq_some (hpair (by omega) _) ?_
  refine bind_eq_some rfl ?_
  refine bind_eq_some (hpair (by omega) _) ?_
  refine bind_eq_some (readMark?_cons hcolon _) ?_
  refine bind_eq_some (hpair (by omega) _) ?_
  refine bind_eq_some (readMark?_cons hcolon _) ?_
  refine bind_eq_some (hpair (by omega) _) ?_
  refine bind_eq_some hfraction ?_
  refine bind_eq_some hzone ?_
  refine (if_pos hm).trans ?_
  rw [toUtc_zero hm, ofMoment?, dif_pos hm]

/-- **An instant is read back from the form in which documents hold it.** -/
theorem read?_toText (t : Timestamp) : read? t.toText = some t := by
  have hz : "Z".toList = ['Z'] := rfl
  rw [read?, toText, write, String.toList_append, String.toList_ofList, hz]
  simp only [writeDate, writeTime, List.append_assoc, List.cons_append]
  exact readChars?_write t.valid

end QueryGate.Timestamp
