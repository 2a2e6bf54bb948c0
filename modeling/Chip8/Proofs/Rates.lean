import Chip8.Processor.Clock
import Chip8.Processor.Rate

/-!
# Integer rates

An integer has a nearest number of the 64-bit binary format unless it lies halfway beyond the
greatest one or further (`Binary64.ofNat?_eq_none_iff`). The nearest number of a positive integer is
at least one, so its reciprocal is at most one: at an integer rate, two ticks are never more than a
second apart (`Rate.exceeds_interval`), and every clock can wait for the next one
(`Rate.canWait_interval`).
-/

namespace Chip8

theorem twoPow_add (j k : Nat) :
  twoPow (j + k) = twoPow j * twoPow k
  := Nat.pow_add 2 j k

theorem twoPow_le_twoPow {j k : Nat} (h : j ≤ k) :
  twoPow j ≤ twoPow k
  := Nat.pow_le_pow_right Nat.two_pos h

theorem le_of_twoPow_le {j k : Nat} (h : twoPow j ≤ twoPow k) :
  j ≤ k
  := (Nat.pow_le_pow_iff_right Nat.one_lt_two).mp h

namespace Binary64

/-! ### Rounding between integers -/

section

variable {num den c : Nat}

theorem roundDiv_le (pos : 0 < den) (below : num ≤ c * den) :
  roundDiv num den ≤ c
  := by
  have near := (roundDiv_near num pos).2
  have key : 2 * roundDiv num den * den ≤ (2 * c + 1) * den := by
    calc 2 * roundDiv num den * den
      _ ≤ 2 * num + den := near
      _ ≤ 2 * (c * den) + den := by omega
      _ = (2 * c + 1) * den := by rw [Nat.add_mul, Nat.one_mul, Nat.mul_assoc]
  have half := Nat.le_of_mul_le_mul_right key pos
  omega

theorem le_roundDiv (pos : 0 < den) (above : c * den ≤ num) :
  c ≤ roundDiv num den
  := by
  have near := (roundDiv_near num pos).1
  have key : 2 * c * den ≤ (2 * roundDiv num den + 1) * den := by
    calc 2 * c * den
      _ = 2 * (c * den) := Nat.mul_assoc ..
      _ ≤ 2 * num := Nat.mul_le_mul_left 2 above
      _ ≤ (2 * roundDiv num den + 1) * den := near
  have half := Nat.le_of_mul_le_mul_right key pos
  omega

/-- From the middle below an even integer on, the quotient is rounded to it. -/
theorem roundDiv_eq_of_even {half : Nat} (even : c % 2 = 0) (above : 2 * c * half ≤ num + half)
    (below : num < 2 * c * half) :
  roundDiv num (2 * half) = c
  := by
  obtain ⟨b, rfl⟩ : ∃ b, c = b + 1 := by
    cases c with
    | zero => rw [Nat.mul_zero, Nat.zero_mul] at below; exact absurd below (Nat.not_lt_zero _)
    | succ b => exact ⟨b, rfl⟩
  have double : 2 * (b + 1) * half = 2 * half * b + 2 * half := by
    rw [Nat.mul_right_comm, Nat.mul_add, Nat.mul_one]
  have quotient : num / (2 * half) = b := by
    apply Nat.div_eq_of_lt_le
    · rw [Nat.mul_comm b]
      omega
    · rw [Nat.mul_comm (b + 1), Nat.mul_add, Nat.mul_one]
      omega
  have split := Nat.div_add_mod num (2 * half)
  rw [quotient] at split
  have upper : half ≤ num % (2 * half) := by omega
  rw [roundDiv, quotient, if_neg (by omega)]
  split
  · rfl
  · omega

end

/-! ### Numbers compared to one -/

section

variable {num den : Nat}

/-- The number that is nearest, before it is known whether it is too large. -/
theorem ofQuotient?_eq (num den : Nat) :
  let e := exponentOf num den
  let m := roundDiv (scaled num den e).1 (scaled num den e).2
  ofQuotient? num den =
    if m = twoPow 53 then if e + 1 ≤ maxExponent then some ⟨twoPow 52, e + 1⟩ else none
    else if e ≤ maxExponent then some ⟨m, e⟩ else none
  := by
  intro e m
  rw [ofQuotient?]
  dsimp only
  split <;> rfl

/-- A quotient that is at most one has a nearest number, which is at most one as well. -/
theorem ofQuotient?_of_le (pos : 0 < den) (small : num ≤ den) :
  ∃ x, ofQuotient? num den = some x ∧ x.fraction.1 ≤ x.fraction.2
  := by
  have low : exponentOf num den < 0 := by
    have least : minExponent = -1074 := rfl
    rw [exponentOf]
    split
    · omega
    · next nonzero =>
        have logs : Nat.log2 num ≤ Nat.log2 den := by
          rw [Nat.le_log2 (Nat.ne_of_gt pos)]
          exact Nat.le_trans (Nat.log2_self_le nonzero) small
        dsimp only
        split <;> omega
  have high : maxExponent = 971 := rfl
  rw [ofQuotient?_eq]
  generalize exponentOf num den = e at low
  have whole : e.toNat = 0 := by omega
  have mantissa : roundDiv (scaled num den e).1 (scaled num den e).2 ≤ twoPow (-e).toNat := by
    rw [scaled, whole, twoPow_zero, Nat.mul_one]
    apply roundDiv_le pos
    rw [Nat.mul_comm]
    apply Nat.mul_le_mul_left _ small
  split
  · next full =>
      rw [full] at mantissa
      have deep := le_of_twoPow_le mantissa
      refine ⟨⟨twoPow 52, e + 1⟩, if_pos (by omega), ?_⟩
      have whole : (e + 1).toNat = 0 := by omega
      rw [fraction, whole, twoPow_zero, Nat.mul_one]
      apply twoPow_le_twoPow
      dsimp only
      omega
  · refine ⟨_, if_pos (by omega), ?_⟩
    rw [fraction, whole, twoPow_zero, Nat.mul_one]
    exact mantissa

end

section

variable {n : Nat}

theorem twoPow_log2_le (pos : 0 < n) :
  twoPow (Nat.log2 n) ≤ n
  := Nat.log2_self_le (Nat.ne_of_gt pos)

/-- At the exponent of a positive integer, the mantissa is full. -/
theorem scaled_one (pos : 0 < n) :
  let e : Int := (Nat.log2 n : Int) - 52
  twoPow 52 * (scaled n 1 e).2 ≤ (scaled n 1 e).1
  := by
  intro e
  have places : 52 + e.toNat = Nat.log2 n + (-e).toNat := by omega
  rw [scaled, Nat.one_mul, ← twoPow_add, places, twoPow_add]
  apply Nat.mul_le_mul_right _ (twoPow_log2_le pos)

theorem exponentOf_one (pos : 0 < n) :
  exponentOf n 1 = (Nat.log2 n : Int) - 52
  := by
  have full := scaled_one pos
  have one : Nat.log2 1 = 0 := by decide
  have least : minExponent = -1074 := rfl
  rw [exponentOf, if_neg (Nat.ne_of_gt pos), one]
  simp only [Int.natCast_zero, Int.sub_zero]
  rw [if_neg (Nat.not_lt_of_le full)]
  omega

/-- The number nearest to a positive integer is at least one. -/
theorem one_le_of_ofNat? (pos : 0 < n) {x : Binary64} (nearest : ofNat? n = some x) :
  x.fraction.2 ≤ x.fraction.1
  := by
  have full : twoPow 52 ≤ x.mantissa ∧ -52 ≤ x.exponent := by
    rw [ofNat?, ofQuotient?_eq, exponentOf_one pos] at nearest
    split at nearest
    · obtain ⟨-, ⟨⟩⟩ := Option.ite_none_right_eq_some.mp nearest
      dsimp only
      omega
    · obtain ⟨-, ⟨⟩⟩ := Option.ite_none_right_eq_some.mp nearest
      constructor
      · apply le_roundDiv _ (scaled_one pos)
        rw [scaled, Nat.one_mul]
        apply twoPow_pos
      · dsimp only
        omega
  calc x.fraction.2
    _ ≤ twoPow 52 := twoPow_le_twoPow (by omega)
    _ ≤ x.mantissa := full.1
    _ ≤ x.fraction.1 := Nat.le_mul_of_pos_right _ (twoPow_pos _)

/-- The least integer that is too large for the format. -/
def overflow : Nat := twoPow 1024 - twoPow 970

theorem twoPow_1024 :
  twoPow 1024 = 2 * twoPow 53 * twoPow 970 ∧ twoPow 971 = 2 * twoPow 970 ∧
    twoPow 1023 ≤ overflow
  := by decide +kernel

/-- Below `2 ^ 1024`, the mantissa is rounded beyond 53 bits from the least integer that is too
large on. -/
theorem roundDiv_eq_iff (below : n < twoPow 1024) :
  roundDiv n (2 * twoPow 970) = twoPow 53 ↔ overflow ≤ n
  := by
  obtain ⟨top, -⟩ := twoPow_1024
  rw [overflow]
  constructor
  · intro carried
    have near := (roundDiv_near n (Nat.mul_pos Nat.two_pos (twoPow_pos 970))).2
    have double : 2 * twoPow 53 * (2 * twoPow 970) = 2 * twoPow 1024 := by
      rw [top, Nat.mul_left_comm]
    rw [carried, double] at near
    omega
  · intro high
    apply roundDiv_eq_of_even (by decide)
    · rw [← top]
      omega
    · rw [← top]
      exact below

/-- An integer has a nearest number exactly if it is not too large. -/
theorem ofNat?_eq_none_iff (n : Nat) :
  ofNat? n = none ↔ overflow ≤ n
  := by
  obtain ⟨-, unit, room⟩ := twoPow_1024
  rcases Nat.eq_zero_or_pos n with rfl | pos
  · decide +kernel
  have least := twoPow_log2_le pos
  have below : n < twoPow (Nat.log2 n + 1) := Nat.lt_log2_self
  have limit : maxExponent = 971 := rfl
  rw [ofNat?, ofQuotient?_eq, exponentOf_one pos]
  rcases Nat.lt_trichotomy (Nat.log2 n) 1023 with small | last | large
  · have less : ¬overflow ≤ n := by
      apply Nat.not_le_of_lt (Nat.lt_of_lt_of_le below (Nat.le_trans _ room))
      apply twoPow_le_twoPow small
    simp only [less, iff_false]
    split
    · rw [if_pos (by omega)]
      exact Option.some_ne_none _
    · rw [if_pos (by omega)]
      exact Option.some_ne_none _
  · rw [last] at below ⊢
    have shift : (((1023 : Nat) : Int) - 52).toNat = 971 ∧
        (-(((1023 : Nat) : Int) - 52)).toNat = 0 := by decide
    rw [scaled, shift.1, shift.2, unit, twoPow_zero, Nat.mul_one, Nat.one_mul,
      ← roundDiv_eq_iff below]
    dsimp only
    split
    · next carried =>
        rw [if_neg (by omega)]
        simp only [carried]
    · next inside =>
        rw [if_pos (by omega)]
        simp only [inside, Option.some_ne_none]
  · have more : overflow ≤ n := by
      apply Nat.le_trans (Nat.sub_le _ _) (Nat.le_trans _ least)
      apply twoPow_le_twoPow large
    simp only [more, iff_true]
    split
    · apply if_neg
      omega
    · apply if_neg
      omega

end

end Binary64

namespace Floating

variable {bound : Nat}

/-- What is at most one is at most any positive number. -/
theorem exceeds_of_le {x : Binary64} (small : x.fraction.1 ≤ x.fraction.2) (pos : 1 ≤ bound)
    (negative : Bool) :
  (finite negative x).exceeds bound = false
  := by
  have inside : x.fraction.1 ≤ bound * x.fraction.2 :=
    Nat.le_trans small (Nat.le_mul_of_pos_left _ pos)
  show (!negative && decide (bound * x.fraction.2 < x.fraction.1)) = false
  rw [decide_eq_false (Nat.not_lt_of_le inside), Bool.and_false]

/-- A quotient that is negative or at most one does not exceed a positive number. -/
theorem exceeds_ofQuotient {num den : Nat} {negative : Bool} (pos : 0 < den)
    (small : negative = false → num ≤ den) (room : 1 ≤ bound) :
  (ofQuotient negative num den).exceeds bound = false
  := by
  rw [ofQuotient]
  cases negative with
  | true => cases Binary64.ofQuotient? num den <;> rfl
  | false =>
      obtain ⟨x, nearest, below⟩ := Binary64.ofQuotient?_of_le pos (small rfl)
      rw [nearest]
      exact exceeds_of_le below room false

/-- Something subtracted from what is at most one leaves at most one. -/
theorem exceeds_minus {x : Floating} (small : x.exceeds 1 = false) (y : Binary64)
    (room : 1 ≤ bound) :
  (x.minus y).exceeds bound = false
  := by
  cases x with
  | finite negative m =>
      have most : (if negative then -(m.fraction.1 : Int) else m.fraction.1) ≤ m.fraction.2 := by
        cases negative with
        | true =>
            rw [if_pos rfl]
            omega
        | false =>
            have unit := Nat.not_lt.mp (of_decide_eq_false small)
            rw [Nat.one_mul] at unit
            exact Int.ofNat_le.mpr unit
      apply exceeds_ofQuotient (Nat.mul_pos (twoPow_pos _) (twoPow_pos _)) _ room
      intro positive
      apply Int.ofNat_le.mp
      rw [Int.natAbs_of_nonneg (Int.not_lt.mp (of_decide_eq_false positive)), Int.natCast_mul]
      apply Int.le_trans (Int.sub_le_self _ (Int.natCast_nonneg _))
      exact Int.mul_le_mul_of_nonneg_right most (Int.natCast_nonneg _)
  | infinite negative =>
      rw [exceeds] at small
      rw [minus, exceeds, small]
  | undefined => rfl

end Floating

namespace Rate

/-- The time between ticks is missing only at integers that are too large. -/
theorem interval_eq_error_iff {n : Int} {e : Fault} :
  (integer n).interval = .error e ↔ (Binary64.overflow : Int) ≤ n ∧ e = .rateTooLarge n
  := by
  rw [interval]
  split
  · next low =>
      have less : ¬(Binary64.overflow : Int) ≤ n := by
        have positive : 0 < Binary64.overflow := by decide +kernel
        omega
      simp only [less, reduceCtorEq, false_and]
  · next positive =>
      have key := Binary64.ofNat?_eq_none_iff n.toNat
      have same : Binary64.overflow ≤ n.toNat ↔ (Binary64.overflow : Int) ≤ n := by omega
      rw [same] at key
      rw [← key]
      cases Binary64.ofNat? n.toNat with
      | none => simp only [Except.error.injEq, true_and, eq_comm]
      | some r => simp only [reduceCtorEq, false_and]

/-- Two ticks at an integer rate are never more than a second apart. -/
theorem exceeds_interval {n : Int} {t : Floating} (given : (integer n).interval = .ok (some t))
    {bound : Nat} (pos : 1 ≤ bound) :
  t.exceeds bound = false
  := by
  rw [interval] at given
  split at given
  · cases given
  · next positive =>
      split at given
      · cases given
      · next r nearest =>
          cases given
          have one := Binary64.one_le_of_ofNat? (by omega) nearest
          have least : 0 < r.fraction.1 := Nat.lt_of_lt_of_le (twoPow_pos _) one
          obtain ⟨y, inverse, small⟩ := Binary64.ofQuotient?_of_le least one
          have inverse : r.reciprocal? = some y := inverse
          rw [Floating.reciprocal, inverse]
          split
          · rfl
          · exact Floating.exceeds_of_le small pos false

/-- At an integer rate, every clock can wait for every tick. -/
theorem canWait_interval {n : Int} {t : Floating} (given : (integer n).interval = .ok (some t))
    (clock : Clock) (tick : Nat) :
  clock.canWait tick t = true
  := by
  have near := Floating.exceeds_minus (exceeds_interval given Nat.one_pos) (clock.took tick)
    clock.patient
  rw [Clock.canWait, Clock.rest, near, Bool.and_false, Bool.not_false]

end Rate

end Chip8
