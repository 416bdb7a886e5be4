import Mathlib.Algebra.Order.Field.Power
import Mathlib.Data.Int.Log
import Mathlib.Data.Rat.Floor
import Mathlib.Tactic.Linarith
import Mathlib.Tactic.NormNum.Pow
import Mathlib.Tactic.Positivity
import QueryGate.Binary

/-!
Rounding to a binary format. What comes of it is a value of the format, and a value of a format is
its own rounding, also after it was written in a wider one.
-/

namespace QueryGate.Binary

variable {f g : Format} {negative : Bool} {num den m : Nat} {p : Int}

/-! ### Quotients -/

lemma roundDiv_le {k : Nat} (hden : 0 < den) (h : num ≤ k * den) : roundDiv num den ≤ k := by
  have hdiv : den * (num / den) + num % den = num := Nat.div_add_mod num den
  rcases Nat.lt_or_ge (num / den) k with hk | hk
  · simp only [roundDiv]
    split_ifs <;> omega
  · have hmul : den * k ≤ den * (num / den) := Nat.mul_le_mul_left den hk
    have hcomm : k * den = den * k := Nat.mul_comm k den
    have hrest : num % den = 0 := by omega
    have hquotient : num / den = k := by
      refine Nat.le_antisymm ?_ hk
      exact Nat.div_le_of_le_mul (by omega)
    simp only [roundDiv, hrest, hquotient]
    rw [if_pos (by omega)]

lemma le_roundDiv {k : Nat} (hden : 0 < den) (h : k * den ≤ num) : k ≤ roundDiv num den := by
  have hk : k ≤ num / den := (Nat.le_div_iff_mul_le hden).mpr h
  simp only [roundDiv]
  split_ifs <;> omega

lemma roundDiv_mul (hden : 0 < den) (k : Nat) : roundDiv (k * den) den = k :=
  Nat.le_antisymm (roundDiv_le hden (Nat.le_refl _)) (le_roundDiv hden (Nat.le_refl _))

lemma scale_pos (hden : 0 < den) (num : Nat) (p : Int) : 0 < (scale num den p).2 :=
  Nat.mul_pos hden (Nat.pow_pos Nat.zero_lt_two)

/-- A scaled quotient is the quotient over a power of two. -/
lemma scale_div (num den : Nat) (p : Int) :
    ((scale num den p).1 : ℚ) / (scale num den p).2 = num / den / 2 ^ p := by
  simp only [scale, Nat.pow_eq, Nat.cast_mul, Nat.cast_pow, Nat.cast_ofNat]
  rcases Int.le_total 0 p with h | h
  · obtain ⟨n, rfl⟩ := Int.eq_ofNat_of_zero_le h
    simp [div_div]
  · obtain ⟨n, hn⟩ := Int.eq_ofNat_of_zero_le (Int.neg_nonneg_of_nonpos h)
    obtain rfl : p = -n := by omega
    simp [mul_div_right_comm]

lemma scale_lt_iff (hden : 0 < den) {k : Nat} :
    (scale num den p).1 / (scale num den p).2 < k ↔ (num : ℚ) / den / 2 ^ p < k := by
  have hpos := scale_pos hden num p
  rw [Nat.div_lt_iff_lt_mul hpos, ← scale_div, div_lt_iff₀ (by exact_mod_cast hpos)]
  norm_cast

/-! ### Powers of two -/

section Size

variable (hnum : num ≠ 0) (hden : 0 < den)

include hnum hden

lemma quotient_pos : (0 : ℚ) < num / den :=
  div_pos (by exact_mod_cast Nat.pos_of_ne_zero hnum) (by exact_mod_cast hden)

lemma le_log_iff {z : Int} : z ≤ Int.log 2 ((num : ℚ) / den) ↔ (2 : ℚ) ^ z ≤ num / den :=
  (Int.zpow_le_iff_le_log Nat.one_lt_two (quotient_pos hnum hden)).symm

lemma log_lt_iff {z : Int} : Int.log 2 ((num : ℚ) / den) < z ↔ (num : ℚ) / den < 2 ^ z :=
  (Int.lt_zpow_iff_log_lt Nat.one_lt_two (quotient_pos hnum hden)).symm

/-- The sizes of a numerator and a denominator tell that of their quotient but for one. -/
lemma log_bounds : (Nat.log2 num : Int) - Nat.log2 den - 1 ≤ Int.log 2 ((num : ℚ) / den) ∧
    Int.log 2 ((num : ℚ) / den) < (Nat.log2 num : Int) - Nat.log2 den + 1 := by
  have hnumlow : (2 : ℚ) ^ (Nat.log2 num : Int) ≤ num := by exact_mod_cast Nat.log2_self_le hnum
  have hnumhigh : (num : ℚ) < 2 ^ ((Nat.log2 num : Int) + 1) := by
    exact_mod_cast Nat.lt_log2_self
  have hdenlow : (2 : ℚ) ^ (Nat.log2 den : Int) ≤ den := by
    exact_mod_cast Nat.log2_self_le hden.ne'
  have hdenhigh : (den : ℚ) < 2 ^ ((Nat.log2 den : Int) + 1) := by
    exact_mod_cast Nat.lt_log2_self
  have hpos : (0 : ℚ) < den := by exact_mod_cast hden
  have htwo : (2 : ℚ) ≠ 0 := two_ne_zero
  rw [le_log_iff hnum hden, log_lt_iff hnum hden]
  constructor
  · rw [le_div_iff₀ hpos, show (Nat.log2 num : Int) - Nat.log2 den - 1 =
      Nat.log2 num - (Nat.log2 den + 1) by omega, zpow_sub₀ htwo, div_mul_eq_mul_div,
      div_le_iff₀ (by positivity)]
    exact mul_le_mul hnumlow hdenhigh.le hpos.le (by positivity)
  · rw [div_lt_iff₀ hpos, show (Nat.log2 num : Int) - Nat.log2 den + 1 =
      Nat.log2 num + 1 - Nat.log2 den by omega, zpow_sub₀ htwo, div_mul_eq_mul_div,
      lt_div_iff₀ (by positivity)]
    exact mul_lt_mul hnumhigh hdenlow (by positivity) (by positivity)

end Size

/-! ### Rounding -/

/-- The power of two that the mantissa of a rounded quotient is multiplied by. -/
def unit (f : Format) (num den : Nat) : Int :=
  max f.least (Int.log 2 ((num : ℚ) / den) + 1 - f.bits)

/-- The mantissa of a rounded quotient, before it is known to have no bit too many. -/
def significand (f : Format) (num den : Nat) : Nat :=
  roundDiv (scale num den (unit f num den)).1 (scale num den (unit f num den)).2

section Size

variable (hnum : num ≠ 0) (hden : 0 < den)

include hnum hden

/-- The guess at the power is right, or too small by one. -/
lemma ofRatio_eq (f : Format) (hbits : 0 < f.bits) (negative : Bool) :
    ofRatio f negative num den =
      let (m, power) := if significand f num den = 2 ^ f.bits
        then (significand f num den / 2, unit f num den + 1)
        else (significand f num den, unit f num den)
      if f.greatest < power then .infinite negative else .finite negative m power := by
  have hpower : max f.least
      (if (scale num den ((Nat.log2 num : Int) - Nat.log2 den - f.bits + 1)).1 /
          (scale num den ((Nat.log2 num : Int) - Nat.log2 den - f.bits + 1)).2 <
            Nat.pow 2 (f.bits - 1)
        then (Nat.log2 num : Int) - Nat.log2 den - f.bits
        else (Nat.log2 num : Int) - Nat.log2 den - f.bits + 1) = unit f num den := by
    obtain ⟨hlow, hhigh⟩ := log_bounds hnum hden
    have hcond : (scale num den ((Nat.log2 num : Int) - Nat.log2 den - f.bits + 1)).1 /
          (scale num den ((Nat.log2 num : Int) - Nat.log2 den - f.bits + 1)).2 <
            Nat.pow 2 (f.bits - 1) ↔
        Int.log 2 ((num : ℚ) / den) < (Nat.log2 num : Int) - Nat.log2 den := by
      rw [scale_lt_iff hden, log_lt_iff hnum hden, div_lt_iff₀ (zpow_pos two_pos _), Nat.pow_eq,
        Nat.cast_pow, Nat.cast_ofNat, ← zpow_natCast, ← zpow_add₀ two_ne_zero]
      rw [show ((f.bits - 1 : Nat) : Int) + ((Nat.log2 num : Int) - Nat.log2 den - f.bits + 1) =
        Nat.log2 num - Nat.log2 den by omega]
    rw [unit, if_congr hcond rfl rfl]
    split_ifs <;> congr 1 <;> omega
  rw [ofRatio, if_neg hnum]
  simp only [hpower]
  rfl

lemma lt_unit (f : Format) : (num : ℚ) / den < 2 ^ (unit f num den + f.bits) := by
  rw [← log_lt_iff hnum hden, unit]
  omega

lemma significand_le (f : Format) : significand f num den ≤ 2 ^ f.bits := by
  have hpos := scale_pos hden num (unit f num den)
  refine roundDiv_le hpos ?_
  have hlt := lt_unit hnum hden f
  rw [Int.add_comm, zpow_add₀ two_ne_zero, ← div_lt_iff₀ (zpow_pos two_pos _), ← scale_div,
    div_lt_iff₀ (by exact_mod_cast hpos), zpow_natCast] at hlt
  exact_mod_cast hlt.le

lemma le_significand (f : Format) (hbits : 0 < f.bits) (h : unit f num den ≠ f.least) :
    2 ^ (f.bits - 1) ≤ significand f num den := by
  have hpos := scale_pos hden num (unit f num den)
  refine le_roundDiv hpos ?_
  have hle : (2 : ℚ) ^ (((f.bits - 1 : Nat) : Int) + unit f num den) ≤ num / den := by
    rw [← le_log_iff hnum hden]
    rw [unit] at h ⊢
    omega
  rw [zpow_add₀ two_ne_zero, ← le_div_iff₀ (zpow_pos two_pos _), ← scale_div,
    le_div_iff₀ (by exact_mod_cast hpos), zpow_natCast] at hle
  exact_mod_cast hle

end Size

/-- A mantissa and a power that a value of a format has. -/
structure IsOf (f : Format) (m : Nat) (p : Int) : Prop where
  lt : m < 2 ^ f.bits
  least : f.least ≤ p
  greatest : p ≤ f.greatest
  normal : p ≠ f.least → 2 ^ (f.bits - 1) ≤ m

/-- The values of a format. -/
def Fits (f : Format) : Binary → Prop
  | .finite _ m p => IsOf f m p
  | _ => True

/-- Whether a wider format has all the values of another one. -/
structure Format.Within (f g : Format) : Prop where
  bits : f.bits ≤ g.bits
  least : g.least ≤ f.least
  greatest : f.greatest ≤ g.greatest

lemma single_within_double : single.Within double := ⟨by decide, by decide, by decide⟩

/-- Formats with a bit at least and with a power at least. -/
structure Format.Proper (f : Format) : Prop where
  bits : 0 < f.bits
  powers : f.least ≤ f.greatest

lemma proper_single : single.Proper := ⟨by decide, by decide⟩

lemma proper_double : double.Proper := ⟨by decide, by decide⟩

lemma fits_zero (hf : f.Proper) (negative : Bool) :
    (Binary.finite negative 0 f.least).Fits f :=
  ⟨Nat.pow_pos Nat.zero_lt_two, Int.le_refl _, hf.powers, fun h => absurd rfl h⟩

/-- **A rounded quotient is a value of the format.** -/
theorem fits_ofRatio (hf : f.Proper) (hden : 0 < den) (negative : Bool) (num : Nat) :
    (ofRatio f negative num den).Fits f := by
  by_cases hnum : num = 0
  · rw [ofRatio, if_pos hnum]
    exact fits_zero hf negative
  have hle := significand_le hnum hden f
  have hbound := le_significand hnum hden f hf.bits
  have hleast : f.least ≤ unit f num den := le_max_left _ _
  have hhalf : 2 ^ f.bits = 2 * 2 ^ (f.bits - 1) := by
    rw [← Nat.pow_succ', Nat.succ_eq_add_one, Nat.sub_add_cancel hf.bits]
  have hpos : 0 < 2 ^ (f.bits - 1) := Nat.pow_pos Nat.zero_lt_two
  rw [ofRatio_eq hnum hden f hf.bits]
  by_cases hcarry : significand f num den = 2 ^ f.bits
  · simp only [if_pos hcarry]
    split_ifs with hlarge
    · trivial
    · exact ⟨by omega, by omega, by omega, fun _ => by omega⟩
  · simp only [if_neg hcarry]
    split_ifs with hlarge
    · trivial
    · exact ⟨by omega, hleast, by omega, hbound⟩

lemma fits_ofDecimal (hf : f.Proper) (negative : Bool) (digits : Nat) (exponent : Int) :
    (ofDecimal f negative digits exponent).Fits f := by
  simp only [ofDecimal]
  split_ifs
  · exact fits_zero hf negative
  · trivial
  · exact fits_ofRatio hf (Nat.pow_pos (by decide)) negative _

/-! ### Exact values -/

/-- A quotient with few enough bits in range is not rounded. -/
lemma ofRatio_exact (hf : 0 < f.bits) (hm : 0 < m) (hlt : m < 2 ^ f.bits) (hleast : f.least ≤ p)
    (hgreatest : p ≤ f.greatest) (hnum : num ≠ 0) (hden : 0 < den)
    (hvalue : (num : ℚ) / den = m * 2 ^ p) (negative : Bool) :
    ∃ k : Nat, unit f num den = p - k ∧
      ofRatio f negative num den = .finite negative (m * 2 ^ k) (p - k) := by
  have hunit : unit f num den ≤ p := by
    have hlog : Int.log 2 ((num : ℚ) / den) < f.bits + p := by
      rw [log_lt_iff hnum hden, hvalue, zpow_add₀ two_ne_zero, zpow_natCast]
      exact mul_lt_mul_of_pos_right (by exact_mod_cast hlt) (zpow_pos two_pos _)
    rw [unit]
    omega
  obtain ⟨k, hk⟩ := Int.eq_ofNat_of_zero_le (Int.sub_nonneg_of_le hunit)
  have hk' : unit f num den = p - k := by omega
  have hpos := scale_pos hden num (unit f num den)
  have hexact : (scale num den (unit f num den)).1 =
      m * 2 ^ k * (scale num den (unit f num den)).2 := by
    have hscaled : ((scale num den (unit f num den)).1 : ℚ) /
        (scale num den (unit f num den)).2 = m * 2 ^ k := by
      rw [scale_div, hvalue, hk', zpow_sub₀ two_ne_zero, zpow_natCast]
      field_simp
    rw [div_eq_iff (by exact_mod_cast hpos.ne')] at hscaled
    exact_mod_cast hscaled
  have hsignificand : significand f num den = m * 2 ^ k := by
    rw [significand, hexact]
    exact roundDiv_mul hpos _
  refine ⟨k, hk', ?_⟩
  have hfew : m * 2 ^ k < 2 ^ f.bits := by
    have hlt := lt_unit hnum hden f
    rw [hvalue, hk', show p - k + f.bits = p + (f.bits - k) by omega, zpow_add₀ two_ne_zero,
      mul_comm, mul_lt_mul_iff_right₀ (zpow_pos two_pos _), zpow_sub₀ two_ne_zero,
      lt_div_iff₀ (zpow_pos two_pos _), zpow_natCast, zpow_natCast] at hlt
    exact_mod_cast hlt
  rw [ofRatio_eq hnum hden f hf, hsignificand, hk', if_neg hfew.ne]
  exact if_neg (by omega)

lemma ofRatio_of_isOf (h : IsOf f m p) (hf : 0 < f.bits) (hm : 0 < m) (hnum : num ≠ 0)
    (hden : 0 < den) (hvalue : (num : ℚ) / den = m * 2 ^ p) (negative : Bool) :
    ofRatio f negative num den = .finite negative m p := by
  obtain ⟨k, hunit, hexact⟩ :=
    ofRatio_exact hf hm h.lt h.least h.greatest hnum hden hvalue negative
  have hk : k = 0 := by
    by_cases hp : p = f.least
    · have : f.least ≤ unit f num den := le_max_left _ _
      omega
    · have hlog : ((f.bits - 1 : Nat) : Int) + p ≤ Int.log 2 ((num : ℚ) / den) := by
        rw [le_log_iff hnum hden, hvalue, zpow_add₀ two_ne_zero, zpow_natCast]
        exact mul_le_mul_of_nonneg_right (by exact_mod_cast h.normal hp) (zpow_pos two_pos _).le
      rw [unit] at hunit
      omega
  rw [hexact, hk, Nat.pow_zero, Nat.mul_one, Int.natCast_zero, Int.sub_zero]

lemma IsOf.eq_least (h : IsOf f 0 p) : p = f.least := by
  by_contra hne
  exact absurd (h.normal hne) (Nat.not_le_of_lt (Nat.pow_pos Nat.zero_lt_two))

lemma ratio_pos (m : Nat) (p : Int) : 0 < (ratio m p).2 := scale_pos Nat.one_pos m (-p)

lemma ratio_value (m : Nat) (p : Int) : ((ratio m p).1 : ℚ) / (ratio m p).2 = m * 2 ^ p := by
  rw [ratio, scale_div, Nat.cast_one, div_one, zpow_neg, div_inv_eq_mul]

lemma ratio_eq_zero_iff (m : Nat) (p : Int) : (ratio m p).1 = 0 ↔ m = 0 := by
  simp [ratio, scale]

lemma convert_zero (f : Format) (negative : Bool) (p : Int) :
    (Binary.finite negative 0 p).convert f = .finite negative 0 f.least := by
  rw [convert, ofRatio, if_pos ((ratio_eq_zero_iff 0 p).mpr rfl)]

lemma fits_convert (hf : f.Proper) (b : Binary) : (b.convert f).Fits f := by
  cases b with
  | finite negative m p => exact fits_ofRatio hf (ratio_pos m p) negative _
  | infinite | undefined => trivial

/-- A value that is written in a wider format and read back is what it was. -/
theorem convert_convert {b : Binary} (h : b.Fits f) (hf : 0 < f.bits) (hg : f.Within g) :
    (b.convert g).convert f = b := by
  cases b with
  | finite negative m p =>
    have hof : IsOf f m p := h
    rcases Nat.eq_zero_or_pos m with rfl | hm
    · rw [convert_zero, convert_zero, hof.eq_least]
    · have hwide : m < 2 ^ g.bits :=
        Nat.lt_of_lt_of_le hof.lt (Nat.pow_le_pow_right Nat.zero_lt_two hg.bits)
      have hnum : (ratio m p).1 ≠ 0 := (ratio_eq_zero_iff m p).not.mpr hm.ne'
      obtain ⟨k, -, hexact⟩ := ofRatio_exact (Nat.lt_of_lt_of_le hf hg.bits) hm hwide
        (hg.least.trans hof.least) (hof.greatest.trans hg.greatest) hnum (ratio_pos m p)
        (ratio_value m p) negative
      have hvalue : ((ratio (m * 2 ^ k) (p - k)).1 : ℚ) / (ratio (m * 2 ^ k) (p - k)).2 =
          m * 2 ^ p := by
        rw [ratio_value, zpow_sub₀ two_ne_zero, zpow_natCast]
        push_cast
        field_simp
      rw [convert, hexact, convert]
      refine ofRatio_of_isOf hof hf hm ?_ (ratio_pos _ _) hvalue negative
      rw [Ne, ratio_eq_zero_iff]
      exact (Nat.mul_pos hm (Nat.pow_pos Nat.zero_lt_two)).ne'
  | infinite | undefined => rfl

lemma convert_eq_self {b : Binary} (h : b.Fits f) (hf : 0 < f.bits) : b.convert f = b := by
  cases b with
  | finite negative m p =>
    have hof : IsOf f m p := h
    rcases Nat.eq_zero_or_pos m with rfl | hm
    · rw [convert_zero, hof.eq_least]
    · exact ofRatio_of_isOf hof hf hm ((ratio_eq_zero_iff m p).not.mpr hm.ne') (ratio_pos m p)
        (ratio_value m p) negative
  | infinite | undefined => rfl

end QueryGate.Binary
