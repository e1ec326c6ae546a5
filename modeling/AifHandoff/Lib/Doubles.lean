import Mathlib.Algebra.Order.Floor.Ring
import Mathlib.Data.Nat.Log
import Mathlib.Data.Rat.Floor
import Mathlib.Tactic.Linarith
import Mathlib.Tactic.NormNum

/-!
The numbers of a language whose only numbers have 53 binary digits.

A finite number is the rational that it stands for, and the two zeros are one. An
operation gives the exact result, rounded to the nearest number, the even one of two; a
result from `2 ^ 1024` on is infinite.
-/

namespace AifHandoff

inductive Double where
  | nan
  | infinite (negative : Bool)
  | finite (q : ℚ)
deriving DecidableEq

namespace Double

/-- The nearest integer, the even one of two. -/
def nearest (q : ℚ) : ℤ :=
  if q - ⌊q⌋ < 1 / 2 then ⌊q⌋
  else if 1 / 2 < q - ⌊q⌋ then ⌊q⌋ + 1
  else if ⌊q⌋ % 2 = 0 then ⌊q⌋
  else ⌊q⌋ + 1

/-- The exponent of the leading binary digit. -/
def exponent (q : ℚ) : ℤ :=
  let k : ℤ := (Nat.log2 q.num.natAbs : ℤ) - Nat.log2 q.den
  if 2 ^ k ≤ |q| then k else k - 1

def round (q : ℚ) : Double :=
  let step : ℚ := 2 ^ (max (exponent q) (-1022) - 52)
  let rounded := nearest (q / step) * step
  if 2 ^ 1024 ≤ |rounded| then .infinite (decide (q < 0)) else .finite rounded

def add : Double → Double → Double
  | .finite q, .finite r => round (q + r)
  | .infinite negative, .infinite negative' => if negative = negative' then .infinite negative else .nan
  | .infinite negative, .finite _ | .finite _, .infinite negative => .infinite negative
  | _, _ => .nan

def mul : Double → Double → Double
  | .finite q, .finite r => round (q * r)
  | .infinite negative, .infinite negative' => .infinite (negative != negative')
  | .infinite negative, .finite q | .finite q, .infinite negative =>
    if q = 0 then .nan else .infinite (negative != decide (q < 0))
  | _, _ => .nan

/-- `left < right`. -/
def lt : Double → Double → Bool
  | .finite q, .finite r => decide (q < r)
  | .infinite true, .finite _ | .infinite true, .infinite false | .finite _, .infinite false => true
  | _, _ => false

def isFinite : Double → Bool
  | .finite _ => true
  | _ => false

/-- The number, or `other` for what is none. -/
def value (other : ℚ) : Double → ℚ
  | .finite q => q
  | .nan | .infinite _ => other

/-- `left * factor`, a factor being what the nearest number to it is. A factor up to one
keeps a number finite. -/
def times (left factor : ℚ) : ℚ := (mul (.finite left) (round factor)).value left

/-- `left - right`. Two numbers that are not negative keep the difference finite. -/
def minus (left right : ℚ) : ℚ := (add (.finite left) (.finite (-right))).value left

/-! ### Integers -/

theorem nearest_intCast (n : ℤ) : nearest n = n := by
  rw [nearest, Int.floor_intCast, if_pos (by norm_num)]

theorem exponent_intCast {n : ℤ} (notZero : n ≠ 0) : exponent n = Nat.log2 n.natAbs := by
  have one : Nat.log2 1 = 0 := by decide
  have least : 2 ^ Nat.log2 n.natAbs ≤ n.natAbs := Nat.log2_self_le (Int.natAbs_ne_zero.mpr notZero)
  have least' : (2 : ℚ) ^ (Nat.log2 n.natAbs : ℤ) ≤ |(n : ℚ)| := by
    rw [zpow_natCast, ← Int.cast_abs, Int.abs_eq_natAbs]
    exact_mod_cast least
  rw [exponent, Rat.num_intCast, Rat.den_intCast, one, Int.natCast_zero, Int.sub_zero,
    if_pos least']

theorem round_of_multiple {n m : ℤ} {step : ℚ} (pos : step ≠ 0)
    (multiple : (n : ℚ) = m * step) : nearest ((n : ℚ) / step) * step = n := by
  rw [multiple, mul_div_cancel_right₀ _ pos, nearest_intCast]

theorem round_intCast {n : ℤ} (small : |n| ≤ 2 ^ 53) : round n = .finite n := by
  have bounded : ¬ (2 : ℚ) ^ 1024 ≤ |(n : ℚ)| := by
    rw [← Int.cast_abs, not_le]
    have cast : ((|n| : ℤ) : ℚ) ≤ 2 ^ 53 := by exact_mod_cast small
    exact cast.trans_lt (pow_lt_pow_right₀ (by norm_num) (by norm_num))
  have exact_ : nearest ((n : ℚ) / 2 ^ (max (exponent n) (-1022) - 52)) *
      2 ^ (max (exponent n) (-1022) - 52) = (n : ℚ) := by
    have pos : (2 : ℚ) ^ (max (exponent n) (-1022) - 52) ≠ 0 := zpow_ne_zero _ (by norm_num)
    rcases eq_or_ne n 0 with rfl | notZero
    · exact round_of_multiple (m := 0) pos (by simp)
    rw [exponent_intCast notZero, max_eq_left (by omega)] at pos ⊢
    have size : n.natAbs ≤ 2 ^ 53 := by
      zify
      exact small
    rcases Nat.lt_or_ge (Nat.log2 n.natAbs) 53 with short | long
    · refine round_of_multiple (m := n * 2 ^ (52 - Nat.log2 n.natAbs)) pos ?_
      have inverse : (2 : ℚ) ^ (52 - Nat.log2 n.natAbs) * 2 ^ ((Nat.log2 n.natAbs : ℤ) - 52) = 1 := by
        rw [← zpow_natCast, ← zpow_add₀ (by norm_num)]
        rw [show ((52 - Nat.log2 n.natAbs : ℕ) : ℤ) + ((Nat.log2 n.natAbs : ℤ) - 52) = 0 by omega,
          zpow_zero]
      push_cast
      rw [mul_assoc, inverse, mul_one]
    · have top : 2 ^ 53 ≤ n.natAbs :=
        (Nat.pow_le_pow_right (by decide) long).trans
          (Nat.log2_self_le (Int.natAbs_ne_zero.mpr notZero))
      have whole : n.natAbs = 2 ^ 53 := Nat.le_antisymm size top
      have log : Nat.log2 n.natAbs = 53 := by
        rw [whole]
        decide
      rw [log] at pos ⊢
      rcases Int.natAbs_eq n with same | same
      · refine round_of_multiple (m := 2 ^ 52) pos ?_
        rw [same, whole]
        norm_num
      · refine round_of_multiple (m := -2 ^ 52) pos ?_
        rw [same, whole]
        norm_num
  rw [round, exact_, if_neg bounded]

end Double

end AifHandoff
