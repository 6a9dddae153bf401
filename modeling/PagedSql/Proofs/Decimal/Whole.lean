import Mathlib.Tactic.Ring
import PagedSql.Decimal.Reading

/-!
# Whole numbers as binary numbers

Sizes are compared as multiples of 2^-1074, so that nothing is divided.  A whole number is a multiple of
some power of two and is rounded to the nearest multiple with at most 53 bits; whether anything is lost,
and whether the result is finite, is said of the number alone.

* `roundDiv_cases`, `roundDiv_nearest`   a quotient is rounded to the nearest whole number;
* `spacing`, `significand`   the power of two that a rounded number is a multiple of, and the multiple;
* `unitsOf_code`, `unitsOf_grid`   sizes are multiples of the spacing, or too small for it;
* `Short`                numbers of 53 bits and zeros behind them, `tooLarge` the least that is not finite;
* `units_nearestCode`    what a whole number is rounded to;
* `nearestCode_nearest`, `nearestCode_exact_iff`, `nearestCode_lt_infinityCode_iff`   how near that is,
                         when it is the number, and when it is finite;
* `Binary64.Denotes`     a number that is a whole number, `Binary64.distance` how far it is from one;
* `Binary64.ofInt`       what a whole number is rounded to: `denotes_ofInt_iff` and `distance_ofInt`;
* `round_whole`          it is what a written whole number is read as.
-/

namespace PagedSql.Decimal

/-! ## powers of two -/

theorem twoTo_add (m n : Nat) : twoTo (m + n) = twoTo m * twoTo n := Nat.pow_add 2 m n

theorem twoTo_le {m n : Nat} (h : m ≤ n) : twoTo m ≤ twoTo n := Nat.pow_le_pow_right (by decide) h

theorem lt_of_twoTo_lt {m n : Nat} (h : twoTo m < twoTo n) : m < n :=
  (Nat.pow_lt_pow_iff_right (by decide)).mp h

theorem twoTo_log2 {n : Nat} (h : 0 < n) : twoTo n.log2 ≤ n ∧ n < twoTo (n.log2 + 1) :=
  ⟨Nat.log2_self_le (Nat.ne_of_gt h), Nat.lt_log2_self⟩

/-! ## rounded quotients -/

theorem roundDiv_cases (num den : Nat) :
    (roundDiv num den = num / den ∧ 2 * (num % den) ≤ den) ∨
      (roundDiv num den = num / den + 1 ∧ den ≤ 2 * (num % den)) := by
  unfold roundDiv
  dsimp only
  split
  · exact Or.inl ⟨rfl, by omega⟩
  · split
    · exact Or.inr ⟨rfl, by omega⟩
    · split
      · exact Or.inl ⟨rfl, by omega⟩
      · exact Or.inr ⟨rfl, by omega⟩

/-- a half goes up from an odd number -/
theorem roundDiv_odd {num den : Nat} (hodd : num / den % 2 = 1) (h : den ≤ 2 * (num % den)) :
    roundDiv num den = num / den + 1 := by
  unfold roundDiv
  dsimp only
  rw [if_neg (by omega)]
  split
  · rfl
  · rw [if_neg (by omega)]

/-- a quotient is rounded below an even number if it is more than a half away from it -/
theorem roundDiv_lt_iff (num : Nat) {half top : Nat} (hhalf : 0 < half) (heven : top % 2 = 0)
    (htop : 0 < top) :
    roundDiv num (2 * half) < top ↔ num < (2 * top - 1) * half := by
  have hdiv := Nat.div_add_mod num (2 * half)
  have hmod := Nat.mod_lt num (show 0 < 2 * half by omega)
  obtain ⟨below, rfl⟩ : ∃ below, top = below + 1 := ⟨top - 1, by omega⟩
  have hbound : (2 * (below + 1) - 1) * half = 2 * half * below + half := by
    rw [show 2 * (below + 1) - 1 = 2 * below + 1 by omega]
    ring
  rw [hbound]
  rcases Nat.lt_trichotomy (num / (2 * half)) below with hlt | heq | hgt
  · -- below whichever way it is rounded
    have hstep := Nat.mul_le_mul_left (2 * half) hlt
    rw [Nat.mul_succ] at hstep
    have hround := roundDiv_cases num (2 * half)
    omega
  · rcases Nat.lt_or_ge (num % (2 * half)) half with hrest | hrest
    · have hround := roundDiv_cases num (2 * half)
      rw [heq] at hdiv hround
      omega
    · have hround : roundDiv num (2 * half) = num / (2 * half) + 1 :=
        roundDiv_odd (by omega) (by omega)
      rw [heq] at hdiv hround
      omega
  · have hstep := Nat.mul_le_mul_left (2 * half) hgt
    rw [Nat.mul_succ] at hstep
    have hround := roundDiv_cases num (2 * half)
    omega

section
variable {den : Nat} (hden : 0 < den) (num : Nat)
include hden

theorem roundDiv_nearest (k : Nat) :
    ((roundDiv num den * den : Nat) - (num : Int)).natAbs ≤ ((k * den : Nat) - (num : Int)).natAbs := by
  have hdiv := Nat.div_add_mod num den
  have hmod := Nat.mod_lt num hden
  rw [Nat.mul_comm] at hdiv
  have hside : k * den ≤ num / den * den ∨ num / den * den + den ≤ k * den := by
    rcases Nat.lt_or_ge (num / den) k with hk | hk
    · have hmul := Nat.mul_le_mul_right den hk
      rw [Nat.succ_mul] at hmul
      exact Or.inr hmul
    · exact Or.inl (Nat.mul_le_mul_right den hk)
  rcases roundDiv_cases num den with ⟨hround, hrest⟩ | ⟨hround, hrest⟩
  · rw [hround]
    omega
  · rw [hround, Nat.succ_mul]
    omega

/-- nothing is lost exactly if the quotient is whole -/
theorem roundDiv_mul_eq_iff : roundDiv num den * den = num ↔ den ∣ num := by
  constructor
  · intro h
    exact ⟨roundDiv num den, by rw [Nat.mul_comm, h]⟩
  · rintro ⟨k, rfl⟩
    have hnear := roundDiv_nearest hden (den * k) k
    rw [Nat.mul_comm k den] at hnear
    omega

end

/-! ## signs -/

theorem signed_inj {negative : Bool} {m n : Nat} : signed negative m = signed negative n ↔ m = n := by
  unfold signed
  split <;> omega

theorem signed_natAbs (n : Int) : signed (decide (n < 0)) n.natAbs = n := by
  unfold signed
  split
  · next h =>
    have := of_decide_eq_true h
    omega
  · next h =>
    rw [decide_eq_true_eq] at h
    omega

theorem natAbs_signed (negative : Bool) (n : Nat) : (signed negative n).natAbs = n := by
  unfold signed
  split <;> omega

theorem signed_lt_zero {negative : Bool} {n : Nat} (h : 0 < n) :
    decide (signed negative n < 0) = negative := by
  cases negative with
  | false =>
    apply decide_eq_false
    show ¬ (n : Int) < 0
    omega
  | true =>
    apply decide_eq_true
    show -(n : Int) < 0
    omega

theorem mul_eq_signed (n : Int) (k : Nat) : n * k = signed (decide (n < 0)) (n.natAbs * k) := by
  have hn := signed_natAbs n
  unfold signed at hn ⊢
  split
  · next h =>
    rw [if_pos h] at hn
    rw [Int.natCast_mul, ← Int.neg_mul, hn]
  · next h =>
    rw [if_neg h] at hn
    rw [Int.natCast_mul, hn]

namespace Binary64

/-! ## sizes -/

theorem unit_eq : unit = twoTo 1074 := rfl

theorem unit_pos : 0 < unit := twoTo_pos 1074

theorem unitsOf_code {s m : Nat} (hlow : twoTo 52 ≤ m) (hhigh : m ≤ twoTo 53) :
    unitsOf (s * twoTo 52 + m) = m * twoTo s := by
  have hpos := twoTo_pos 52
  have htop : twoTo 53 = 2 * twoTo 52 := Nat.mul_comm (twoTo 52) 2
  unfold unitsOf
  dsimp only
  rcases Nat.lt_or_ge m (twoTo 53) with hm | hm
  · have hsplit : s * twoTo 52 + m = (m - twoTo 52) + (s + 1) * twoTo 52 := by
      rw [Nat.succ_mul]
      omega
    have hfraction : m - twoTo 52 < twoTo 52 := by omega
    rw [hsplit, Nat.add_mul_div_right _ _ hpos, Nat.add_mul_mod_self_right, Nat.div_eq_of_lt hfraction,
      Nat.mod_eq_of_lt hfraction, if_neg (by omega)]
    have hsum : twoTo 52 + (m - twoTo 52) = m := by omega
    rw [hsum, Nat.zero_add, Nat.add_sub_cancel]
  · -- the significand has been carried into the next exponent
    have hm : m = 2 * twoTo 52 := by omega
    have hsplit : s * twoTo 52 + m = (s + 2) * twoTo 52 := by
      rw [hm, Nat.add_mul]
    rw [hsplit, Nat.mul_div_cancel _ hpos, Nat.mul_mod_left, if_neg (by omega), hm, Nat.add_zero,
      show s + 2 - 1 = s + 1 from rfl, twoTo_succ s]
    ring

/-- a size is a multiple of a spacing, or at most the least that has 53 bits of it -/
theorem unitsOf_grid (code s : Nat) :
    (∃ k, unitsOf code = k * twoTo s) ∨ unitsOf code ≤ twoTo 52 * twoTo s := by
  have hfraction : code % twoTo 52 < twoTo 52 := Nat.mod_lt _ (twoTo_pos 52)
  have hone : 1 ≤ twoTo s := twoTo_pos s
  unfold unitsOf
  dsimp only
  split
  · refine Or.inr ?_
    calc code % twoTo 52 ≤ twoTo 52 * 1 := by omega
      _ ≤ twoTo 52 * twoTo s := Nat.mul_le_mul_left _ hone
  · rcases Nat.lt_or_ge (code / twoTo 52 - 1) s with hlt | hle
    · refine Or.inr ?_
      calc (twoTo 52 + code % twoTo 52) * twoTo (code / twoTo 52 - 1)
          ≤ (twoTo 52 * 2) * twoTo (code / twoTo 52 - 1) := Nat.mul_le_mul_right _ (by omega)
        _ = twoTo 52 * twoTo (code / twoTo 52 - 1 + 1) := by
          rw [twoTo_succ (code / twoTo 52 - 1), Nat.mul_comm (twoTo (code / twoTo 52 - 1)), Nat.mul_assoc]
        _ ≤ twoTo 52 * twoTo s := Nat.mul_le_mul_left _ (twoTo_le hlt)
    · refine Or.inl ⟨(twoTo 52 + code % twoTo 52) * twoTo (code / twoTo 52 - 1 - s), ?_⟩
      rw [Nat.mul_assoc, ← twoTo_add, Nat.sub_add_cancel hle]

/-! ## the code of a whole number -/

/-- the binary numbers around a whole number are multiples of two to this power -/
def spacing (n : Nat) : Nat := (n * unit).log2 - 52

def significand (n : Nat) : Nat := roundDiv (n * unit) (twoTo (spacing n))

theorem nearestCode_eq (n : Nat) : nearestCode n 1 = spacing n * twoTo 52 + significand n := by
  unfold nearestCode significand spacing
  dsimp only
  rw [Nat.div_one, Nat.one_mul]

/-- a number of at most 53 bits and zeros behind them -/
def Short (n : Nat) : Prop := ∃ m e, m < twoTo 53 ∧ n = m * twoTo e

/-- half way between the largest finite size and the next power of two -/
def tooLarge : Nat := twoTo 1024 - twoTo 970

theorem tooLarge_units : tooLarge * unit = (2 * twoTo 53 - 1) * twoTo 2044 := by
  have htwo : twoTo 1 = 2 := rfl
  have hpower : twoTo (1 + 53 + 970) = 2 * twoTo 53 * twoTo 970 := by
    rw [twoTo_add, twoTo_add, htwo]
  have hunits : twoTo (970 + 1074) = twoTo 970 * unit := by
    rw [twoTo_add, unit_eq]
  unfold tooLarge
  rw [show 1024 = 1 + 53 + 970 from rfl, show 2044 = 970 + 1074 from rfl, hpower, hunits,
    ← Nat.mul_assoc, Nat.sub_mul (2 * twoTo 53), Nat.one_mul]

section
variable {n : Nat} (hn : 0 < n)
include hn

theorem twoTo_spacing :
    twoTo 52 * twoTo (spacing n) ≤ n * unit ∧ n * unit < twoTo 53 * twoTo (spacing n) := by
  have hunit : unit ≤ n * unit := Nat.le_mul_of_pos_left unit hn
  obtain ⟨hlow, hhigh⟩ := twoTo_log2 (Nat.lt_of_lt_of_le (twoTo_pos 1074) hunit)
  have hlog : 1074 < (n * unit).log2 + 1 := lt_of_twoTo_lt (Nat.lt_of_le_of_lt hunit hhigh)
  have hspacing : spacing n = (n * unit).log2 - 52 := rfl
  rw [← twoTo_add, ← twoTo_add, show 52 + spacing n = (n * unit).log2 by omega,
    show 53 + spacing n = (n * unit).log2 + 1 by omega]
  exact ⟨hlow, hhigh⟩

theorem quotient_bounds :
    twoTo 52 ≤ n * unit / twoTo (spacing n) ∧ n * unit / twoTo (spacing n) < twoTo 53 := by
  obtain ⟨hlow, hhigh⟩ := twoTo_spacing hn
  have hpos := twoTo_pos (spacing n)
  exact ⟨(Nat.le_div_iff_mul_le hpos).mpr hlow, (Nat.div_lt_iff_lt_mul hpos).mpr hhigh⟩

theorem significand_bounds : twoTo 52 ≤ significand n ∧ significand n ≤ twoTo 53 := by
  obtain ⟨hlow, hhigh⟩ := quotient_bounds hn
  unfold significand
  rcases roundDiv_cases (n * unit) (twoTo (spacing n)) with ⟨hround, _⟩ | ⟨hround, _⟩
  · omega
  · omega

theorem units_nearestCode : unitsOf (nearestCode n 1) = significand n * twoTo (spacing n) := by
  obtain ⟨hlow, hhigh⟩ := significand_bounds hn
  rw [nearestCode_eq, unitsOf_code hlow hhigh]

/-- **Nearest.**  No size is nearer to a whole number than the one it is rounded to. -/
theorem nearestCode_nearest (code : Nat) :
    ((unitsOf (nearestCode n 1) : Int) - (n * unit : Nat)).natAbs ≤
      ((unitsOf code : Int) - (n * unit : Nat)).natAbs := by
  have hpos := twoTo_pos (spacing n)
  obtain ⟨hlow, _⟩ := twoTo_spacing hn
  rw [units_nearestCode hn]
  rcases unitsOf_grid code (spacing n) with ⟨k, hk⟩ | hsmall
  · rw [hk]
    exact roundDiv_nearest hpos (n * unit) k
  · -- the least size with this spacing is between the two
    have hleast := roundDiv_nearest hpos (n * unit) (twoTo 52)
    unfold significand
    omega

/-- 53 bits reach at least down to the spacing -/
theorem spacing_le {m e : Nat} (hm : m < twoTo 53) (he : n * unit = m * twoTo e) : spacing n ≤ e := by
  obtain ⟨hlow, _⟩ := twoTo_spacing hn
  have hbits : twoTo (52 + spacing n) < twoTo (53 + e) := by
    rw [twoTo_add, twoTo_add]
    apply Nat.lt_of_le_of_lt hlow
    rw [he]
    exact Nat.mul_lt_mul_of_pos_right hm (twoTo_pos e)
  have hle := lt_of_twoTo_lt hbits
  omega

/-- Nothing is lost exactly if the number has no more than 53 bits in front of its zeros. -/
theorem nearestCode_exact_iff : unitsOf (nearestCode n 1) = n * unit ↔ Short n := by
  obtain ⟨_, hhigh⟩ := twoTo_spacing hn
  have hpos := twoTo_pos (spacing n)
  constructor
  · intro h
    rw [units_nearestCode hn] at h
    rcases Nat.le_total (spacing n) 1074 with hle | hle
    · refine ⟨n, 0, ?_, by rw [twoTo_zero, Nat.mul_one]⟩
      apply Nat.lt_of_mul_lt_mul_right (a := unit)
      exact Nat.lt_of_lt_of_le hhigh (Nat.mul_le_mul_left (twoTo 53) (twoTo_le hle))
    · refine ⟨significand n, spacing n - 1074, ?_, ?_⟩
      · rw [← h] at hhigh
        exact Nat.lt_of_mul_lt_mul_right hhigh
      · apply Nat.eq_of_mul_eq_mul_right unit_pos
        rw [unit_eq, Nat.mul_assoc, ← twoTo_add, Nat.sub_add_cancel hle, h, unit_eq]
  · rintro ⟨m, e, hm, he⟩
    have hunits : n * unit = m * twoTo (e + 1074) := by
      rw [he, twoTo_add, Nat.mul_assoc, unit_eq]
    rw [units_nearestCode hn]
    refine (roundDiv_mul_eq_iff hpos _).mpr ?_
    rw [hunits]
    exact Nat.dvd_mul_left_of_dvd (Nat.pow_dvd_pow 2 (spacing_le hn hm hunits)) m

theorem nearestCode_lt_infinityCode_iff : nearestCode n 1 < infinityCode ↔ n < tooLarge := by
  have hsize : n < tooLarge ↔ n * unit < (2 * twoTo 53 - 1) * twoTo 2044 := by
    rw [← tooLarge_units]
    exact (Nat.mul_lt_mul_right unit_pos).symm
  obtain ⟨hlow, hhigh⟩ := twoTo_spacing hn
  obtain ⟨hleast, hmost⟩ := significand_bounds hn
  have h52 : twoTo 52 = 4503599627370496 := rfl
  have h53 : twoTo 53 = 9007199254740992 := rfl
  have hinfinity : infinityCode = 2047 * twoTo 52 := rfl
  rw [hsize, nearestCode_eq, hinfinity]
  rcases Nat.lt_trichotomy (spacing n) 2045 with hlt | heq | hgt
  · have hle : spacing n ≤ 2044 := Nat.le_of_lt_succ hlt
    have hunits := Nat.lt_of_lt_of_le hhigh (Nat.mul_le_mul_left (twoTo 53) (twoTo_le hle))
    have hcode := Nat.mul_le_mul_right (twoTo 52) hle
    have hmore : twoTo 53 * twoTo 2044 ≤ (2 * twoTo 53 - 1) * twoTo 2044 :=
      Nat.mul_le_mul_right _ (by omega)
    omega
  · have hround := roundDiv_lt_iff (n * unit) (twoTo_pos 2044) rfl (twoTo_pos 53)
    rw [← hround, heq]
    unfold significand
    rw [heq, twoTo_succ 2044, Nat.mul_comm (twoTo 2044)]
    omega
  · have hmore : 2046 ≤ spacing n := hgt
    have hunits := Nat.le_trans (Nat.mul_le_mul_left (twoTo 52) (twoTo_le hmore)) hlow
    have hcode := Nat.mul_le_mul_right (twoTo 52) hmore
    have hless : (2 * twoTo 53 - 1) * twoTo 2044 ≤ twoTo 52 * twoTo 2046 := by
      rw [twoTo_succ 2045, twoTo_succ 2044, h52, h53]
      omega
    omega

end

/-! ## numbers with a sign -/

/-- the value of a finite number in units of 2^-1074 -/
def units (x : Binary64) : Int := signed x.isNegative (unitsOf x.code)

/-- the number is exactly this whole number -/
def Denotes (x : Binary64) (n : Int) : Prop := x.IsFinite ∧ x.units = n * unit

instance (x : Binary64) (n : Int) : Decidable (x.Denotes n) := inferInstanceAs (Decidable (_ ∧ _))

/-- how far a number is from a whole number, in the same units -/
def distance (x : Binary64) (n : Int) : Nat := (x.units - n * unit).natAbs

theorem isNegative_ofCode (negative : Bool) {code : Nat} (h : code < twoTo 63) :
    (ofCode negative code).isNegative = negative := by
  have e : twoTo 63 = 9223372036854775808 := rfl
  rw [e] at h
  unfold ofCode isNegative
  rw [e, UInt64.toNat_ofNat']
  cases negative with
  | false =>
    apply decide_eq_false
    simp only [Bool.false_eq_true, if_false]
    omega
  | true =>
    apply decide_eq_true
    simp only [if_true]
    omega

theorem units_ofCode (negative : Bool) {code : Nat} (h : code < twoTo 63) :
    (ofCode negative code).units = signed negative (unitsOf code) := by
  unfold units
  rw [isNegative_ofCode negative h, code_ofCode negative h]

theorem lt_of_finite_code {code : Nat} (h : code < infinityCode) : code < twoTo 63 := by
  have hinf : infinityCode < twoTo 63 := by decide +kernel
  exact Nat.lt_trans h hinf

theorem isFinite_ofCode (negative : Bool) {code : Nat} (h : code < infinityCode) :
    (ofCode negative code).IsFinite := by
  unfold IsFinite
  rw [code_ofCode negative (lt_of_finite_code h)]
  exact h

/-- a whole number is rounded to this one, where the size is finite -/
def ofInt (n : Int) : Binary64 := ofCode (decide (n < 0)) (nearestCode n.natAbs 1)

section
variable {n : Int} (hn : n ≠ 0) (hsize : n.natAbs < tooLarge)
include hn hsize

theorem ofInt_code_lt : nearestCode n.natAbs 1 < infinityCode :=
  (nearestCode_lt_infinityCode_iff (Int.natAbs_pos.mpr hn)).mpr hsize

theorem units_ofInt : (ofInt n).units = signed (decide (n < 0)) (unitsOf (nearestCode n.natAbs 1)) :=
  units_ofCode _ (lt_of_finite_code (ofInt_code_lt hn hsize))

theorem denotes_ofInt_iff : (ofInt n).Denotes n ↔ Short n.natAbs := by
  have hfinite : (ofInt n).IsFinite := isFinite_ofCode _ (ofInt_code_lt hn hsize)
  unfold Denotes
  rw [and_iff_right hfinite, units_ofInt hn hsize, mul_eq_signed, signed_inj]
  exact nearestCode_exact_iff (Int.natAbs_pos.mpr hn)

theorem distance_ofInt (y : Binary64) : (ofInt n).distance n ≤ y.distance n := by
  have hpos := Int.natAbs_pos.mpr hn
  have hnear := nearestCode_nearest hpos y.code
  -- a number of the other sign is not nearer than zero
  have hzero := nearestCode_nearest hpos 0
  rw [show unitsOf 0 = 0 from rfl] at hzero
  unfold distance
  rw [units_ofInt hn hsize, mul_eq_signed]
  unfold units signed
  split
  · split <;> omega
  · split <;> omega

end

end Binary64

/-! ## whole numbers that are read -/

section
open Binary64

theorem tooLarge_le : tooLarge ≤ tenTo 310 := by decide +kernel

theorem tenTo_le_of_digits {n k : Nat} (hk : 0 < k) (h : k < (Nat.toDigits 10 n).length) :
    tenTo k ≤ n := by
  apply Nat.le_of_not_lt
  intro hlt
  exact Nat.not_le_of_lt h ((Nat.length_toDigits_le_iff (by decide) hk).mpr hlt)

/-- **Rounding.**  A whole number is read as the number with the nearest size, if that is finite. -/
theorem round_whole (negative : Bool) {n : Nat} (hn : 0 < n) :
    Numeral.round ⟨negative, n, 0⟩ = if n < tooLarge then some (ofInt (signed negative n)) else none := by
  have hlength : 0 < (Nat.toDigits 10 n).length := List.length_pos_iff.mpr Nat.toDigits_ne_nil
  have hpowers : tenTo (0 : Int).toNat = 1 ∧ tenTo (-(0 : Int)).toNat = 1 := ⟨rfl, rfl⟩
  unfold Numeral.round ofInt
  dsimp only
  rw [if_neg (by omega), hpowers.1, hpowers.2, Nat.mul_one, signed_lt_zero hn, natAbs_signed]
  split
  · next hdigits =>
    have hlarge : tenTo 310 ≤ n := tenTo_le_of_digits (by decide) (by omega)
    rw [if_neg (Nat.not_lt_of_le (Nat.le_trans tooLarge_le hlarge))]
  · simp only [nearestCode_lt_infinityCode_iff hn]

end

end PagedSql.Decimal
