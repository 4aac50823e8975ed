import CameraFleet.Number.Binary64
import Mathlib.Data.Nat.Log
import Mathlib.Data.Nat.Digits.Lemmas
import Mathlib.Tactic.Ring

/-!
# Whole numbers that are read back

An integer that a decimal is read as has at most 53 significant bits. Written as
a decimal and read again, it is the same integer.
-/

namespace CameraFleet
namespace Number

/-- A number of at most 53 significant bits, within the range of binary numbers. -/
def Exact (n : Nat) : Prop :=
  ∃ significand shift, n = significand * 2 ^ shift ∧ significand < 2 ^ 53 ∧ shift ≤ 971

/-- Small numbers have few bits. -/
theorem exact_of_lt {n : Nat} (small : n < 2 ^ 53) : Exact n :=
  ⟨n, 0, by simp, small, by omega⟩

/-- A significand may also be the least one of 54 bits, except at the end of the range. -/
theorem exact_of_le
    {significand shift : Nat}
    (few : significand ≤ 2 ^ 53)
    (inside : shift < 971 ∨ shift = 971 ∧ significand < 2 ^ 53) :
    Exact (significand * 2 ^ shift) := by
  rcases Nat.lt_or_eq_of_le few with less | rfl
  · exact ⟨significand, shift, rfl, less, by omega⟩
  · refine ⟨2 ^ 52, shift + 1, ?_, by norm_num, by omega⟩
    rw [Nat.pow_succ 2 shift]
    ring

/-! ## What is read -/

theorem roundDiv_le {n d bound : Nat} (less : n / d < bound) : roundDiv n d ≤ bound := by
  unfold roundDiv
  dsimp only
  split
  · omega
  · split <;> omega

theorem roundDiv_of_dvd {n d : Nat} (positive : 0 < d) (divides : d ∣ n) :
    roundDiv n d = n / d := by
  unfold roundDiv
  rw [Nat.mod_eq_zero_of_dvd divides]
  simp [positive]

/-- A fraction scaled far enough has 53 bits at most before the point. -/
theorem scaled_lt
    {n d : Nat}
    (positive : 0 < d)
    {exponent : Int}
    (far : (n.log2 : Int) - d.log2 - 52 ≤ exponent) :
    (scaled n d exponent).1 / (scaled n d exponent).2 < 2 ^ 53 := by
  refine Nat.div_lt_of_lt_mul ?_
  have top : n < 2 ^ (n.log2 + 1) := Nat.lt_log2_self
  have bottom : 2 ^ d.log2 ≤ d := Nat.log2_self_le (by omega)
  calc n * 2 ^ (-exponent).toNat
      < 2 ^ (n.log2 + 1) * 2 ^ (-exponent).toNat :=
        Nat.mul_lt_mul_of_pos_right top (Nat.two_pow_pos _)
    _ = 2 ^ (n.log2 + 1 + (-exponent).toNat) := (Nat.pow_add ..).symm
    _ ≤ 2 ^ (d.log2 + exponent.toNat + 53) := Nat.pow_le_pow_right (by omega) (by omega)
    _ = 2 ^ d.log2 * 2 ^ exponent.toNat * 2 ^ 53 := by rw [Nat.pow_add, Nat.pow_add]
    _ ≤ d * 2 ^ exponent.toNat * 2 ^ 53 :=
        Nat.mul_le_mul_right _ (Nat.mul_le_mul_right _ bottom)

/-- So it has at its own exponent. -/
theorem scaled_exponentOf_lt (n : Nat) {d : Nat} (positive : 0 < d) :
    (scaled n d (exponentOf n d)).1 / (scaled n d (exponentOf n d)).2 < 2 ^ 53 := by
  unfold exponentOf
  dsimp only
  split
  · exact scaled_lt positive (by omega)
  · rename_i enough
    exact Nat.lt_of_not_le enough

/-- An integer that is read from a decimal has few bits. -/
theorem exact_of_toInt? {decimal : Decimal} {n : Nat} (read : decimal.toInt? = some (n : Int)) :
    Exact n := by
  obtain ⟨x, nearest, whole⟩ := Option.bind_eq_some_iff.mp read
  unfold Decimal.nearest? at nearest
  dsimp only at nearest
  split at nearest
  · obtain rfl := Option.some.inj nearest
    have zero : n = 0 := by
      simp [Binary64.toInt?] at whole
      omega
    exact zero ▸ exact_of_lt (by norm_num)
  · split at nearest
    · cases nearest
    · generalize decimal.digits * power 10 decimal.exponent = top at nearest
      have positive : 0 < power 10 (-decimal.exponent) := Nat.pow_pos (by omega)
      generalize power 10 (-decimal.exponent) = bottom at nearest positive
      have few := roundDiv_le (scaled_exponentOf_lt top positive)
      unfold nearestFraction at nearest
      dsimp only at nearest
      generalize exponentOf top bottom = exponent at nearest few
      generalize roundDiv (scaled top bottom exponent).1 (scaled top bottom exponent).2 =
        significand at nearest few
      split at nearest
      · cases nearest
      · rename_i fits
        obtain rfl := Option.some.inj nearest
        unfold Binary64.toInt? at whole
        dsimp only at whole
        split at whole
        · have inside : exponent.toNat < 971 ∨ exponent.toNat = 971 ∧ significand < 2 ^ 53 := by
            simp only [Bool.or_eq_true, decide_eq_true_eq, Bool.and_eq_true, beq_iff_eq] at fits
            change ¬ (971 < exponent ∨ exponent = 971 ∧ 2 ^ 53 ≤ significand) at fits
            omega
          have smaller : significand / power 2 (-exponent) ≤ significand := Nat.div_le_self _ _
          have exact' : Exact (significand / power 2 (-exponent) * 2 ^ exponent.toNat) :=
            exact_of_le (by omega) (by omega)
          have value := Option.some.inj whole
          split at value
          · have zero : n = 0 := by omega
            exact zero ▸ exact_of_lt (by norm_num)
          · have same : n = significand / power 2 (-exponent) * 2 ^ exponent.toNat := by
              exact_mod_cast value.symm
            exact same ▸ exact'
        · cases whole

/-! ## What is read back -/

/-- A number of at most 53 bits before the point is at its own exponent. -/
theorem exponentOf_one {n : Nat} (positive : 0 < n) (inside : (n.log2 : Int) ≤ 1023) :
    exponentOf n 1 = n.log2 - 52 := by
  have most := Nat.log2_self_le (show n ≠ 0 by omega)
  have one : Nat.log2 1 = 0 := by decide
  have guess : max minExponent ((n.log2 : Int) - (0 : Nat) - 53) = n.log2 - 53 := by
    unfold minExponent
    omega
  unfold exponentOf
  dsimp only
  rw [one, guess, if_pos]
  · omega
  · have top : 2 ^ 53 * 2 ^ ((n.log2 : Int) - 53).toNat ≤
        n * 2 ^ (-((n.log2 : Int) - 53)).toNat := by
      calc 2 ^ 53 * 2 ^ ((n.log2 : Int) - 53).toNat
          = 2 ^ (53 + ((n.log2 : Int) - 53).toNat) := (Nat.pow_add ..).symm
        _ = 2 ^ (n.log2 + (-((n.log2 : Int) - 53)).toNat) := by
            congr 1
            omega
        _ = 2 ^ n.log2 * 2 ^ (-((n.log2 : Int) - 53)).toNat := Nat.pow_add ..
        _ ≤ n * 2 ^ (-((n.log2 : Int) - 53)).toNat := Nat.mul_le_mul_right _ most
    simp only [scaled, power, Nat.pow_eq, Nat.one_mul]
    exact (Nat.le_div_iff_mul_le (Nat.two_pow_pos _)).mpr top

/-- A positive number of few bits is read back from its decimal. -/
theorem toInt?_of_exact {n : Nat} (positive : 0 < n) (few : Exact n) :
    Decimal.toInt? { digits := n, exponent := 0 } = some (n : Int) := by
  obtain ⟨significand, shift, same, small, inside⟩ := few
  have large : n < 2 ^ (53 + shift) := by
    rw [same, Nat.pow_add]
    exact Nat.mul_lt_mul_of_pos_right small (Nat.two_pow_pos shift)
  have log : n.log2 < 53 + shift := (Nat.log2_lt (by omega)).mpr large
  have short : (toString n).length ≤ 309 := by
    have range : 2 ^ 1024 ≤ 10 ^ 309 := by decide +kernel
    refine Nat.repr_length n 309 (by omega) (large.trans_le ?_)
    exact (Nat.pow_le_pow_right (by omega) (by omega)).trans range
  have exponent := exponentOf_one positive (by omega)
  generalize known : (n.log2 : Int) - 52 = place at exponent
  have down : power 2 place = 2 ^ place.toNat := rfl
  have up : power 2 (-place) = 2 ^ (-place).toNat := rfl
  have divides : power 2 place ∣ n * power 2 (-place) := by
    rw [same, down]
    exact ((Nat.pow_dvd_pow 2 (by omega)).mul_left significand).mul_right _
  have inRange : ¬ (971 < place ∨ place = 971 ∧
      power 2 53 ≤ n * power 2 (-place) / power 2 place) := by
    rintro (far | ⟨last, many⟩)
    · omega
    · have bound : n * power 2 (-place) < power 2 place * 2 ^ 53 := by
        rw [up, down, show (-place).toNat = 0 by omega, Nat.pow_zero, Nat.mul_one, ← Nat.pow_add]
        exact large.trans_le (Nat.pow_le_pow_right (by omega) (by omega))
      exact absurd many (Nat.not_le_of_lt (Nat.div_lt_of_lt_mul bound))
  have nearest : Decimal.nearest? { digits := n, exponent := 0 } =
      some { significand := n * power 2 (-place) / power 2 place, exponent := place } := by
    unfold Decimal.nearest?
    dsimp only
    rw [if_neg, if_neg]
    · have one : power 10 0 = 1 := rfl
      rw [Int.neg_zero, one, Nat.mul_one, nearestFraction]
      dsimp only
      rw [exponent, scaled]
      dsimp only
      rw [Nat.one_mul, roundDiv_of_dvd (show 0 < power 2 place from Nat.two_pow_pos _) divides,
        if_neg]
      simpa using inRange
    · unfold decimalLimit
      omega
    · unfold decimalLimit
      simp
      omega
  have whole : n * power 2 (-place) / power 2 place % power 2 (-place) = 0 ∧
      n * power 2 (-place) / power 2 place / power 2 (-place) * power 2 place = n := by
    rcases Int.le_total place 0 with low | high
    · have one : power 2 place = 1 := by
        rw [down, show place.toNat = 0 by omega, Nat.pow_zero]
      rw [one, Nat.div_one, Nat.mul_mod_left, Nat.mul_one]
      exact ⟨rfl, Nat.mul_div_cancel n (Nat.two_pow_pos _)⟩
    · have one : power 2 (-place) = 1 := by
        rw [up, show (-place).toNat = 0 by omega, Nat.pow_zero]
      rw [one, Nat.mul_one] at divides
      rw [one, Nat.mod_one, Nat.div_one, Nat.mul_one]
      exact ⟨rfl, Nat.div_mul_cancel divides⟩
  rw [Decimal.toInt?, nearest, Option.bind_some, Binary64.toInt?]
  exact (if_pos whole.1).trans (congrArg (fun n : Nat => some (n : Int)) whole.2)

end Number
end CameraFleet
