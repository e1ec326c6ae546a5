import Mathlib.Data.String.Basic
import Mathlib.Order.Basic

/-!
UTC times and their ISO texts.

A time of the years 0 to 9999 is written with a fixed number of digits per field, from the
year down to the milliseconds, so that the order of the texts is the order of the times.
-/

namespace AifHandoff

/-- A time of the UTC calendar, down to the millisecond. -/
structure UtcTime where
  year : Nat
  month : Nat
  day : Nat
  hour : Nat
  minute : Nat
  second : Nat
  millisecond : Nat
  year_lt : year < 10000 := by decide
  month_le : month ≤ 12 := by decide
  day_le : day ≤ 31 := by decide
  hour_lt : hour < 24 := by decide
  minute_lt : minute < 60 := by decide
  second_lt : second < 60 := by decide
  millisecond_lt : millisecond < 1000 := by decide

namespace UtcTime

/-- The fields, the most significant first. -/
def fields (t : UtcTime) : List Nat :=
  [t.year, t.month, t.day, t.hour, t.minute, t.second, t.millisecond]

/-- Earlier in the first field that differs. -/
instance : LT UtcTime := ⟨fun s t => s.fields < t.fields⟩

instance (s t : UtcTime) : Decidable (s < t) := inferInstanceAs (Decidable (s.fields < t.fields))

theorem lt_iff {s t : UtcTime} : s < t ↔ s.fields < t.fields := Iff.rfl

/-! ### Digits -/

def digitChar (d : Nat) : Char := Char.ofNat ('0'.toNat + d)

/-- The last `w` digits of a number. -/
def padded : Nat → Nat → List Char
  | 0, _ => []
  | w + 1, n => digitChar (n / 10 ^ w % 10) :: padded w n

theorem digitChar_lt_iff {a b : Nat} (ha : a < 10) (hb : b < 10) :
    digitChar a < digitChar b ↔ a < b := by
  have all : ∀ a < 10, ∀ b < 10, (digitChar a < digitChar b ↔ a < b) := by decide
  exact all a ha b hb

theorem digitChar_injective {a b : Nat} (ha : a < 10) (hb : b < 10) :
    digitChar a = digitChar b ↔ a = b := by
  have all : ∀ a < 10, ∀ b < 10, (digitChar a = digitChar b ↔ a = b) := by decide
  exact all a ha b hb

theorem length_padded (w n : Nat) : (padded w n).length = w := by
  induction w with
  | zero => rfl
  | succ w ih => rw [padded, List.length_cons, ih]

theorem padded_mod (w n : Nat) : padded w (n % 10 ^ w) = padded w n := by
  have wide (v : Nat) (le : v ≤ w) : padded v (n % 10 ^ w) = padded v n := by
    induction v with
    | zero => rfl
    | succ v ih =>
      have digit : n % 10 ^ w / 10 ^ v % 10 = n / 10 ^ v % 10 := by
        obtain ⟨k, rfl⟩ : ∃ k, w = v + 1 + k := ⟨w - (v + 1), by omega⟩
        rw [pow_add, pow_succ, Nat.mul_assoc, Nat.mod_mul_right_div_self,
          Nat.mod_mul_right_mod]
      rw [padded, padded, digit, ih (by omega)]
  exact wide w le_rfl

/-- Numbers of one width compare as their digits, and what follows decides among equals. -/
theorem padded_append_lt_iff {w a b : Nat} {rest rest' : List Char} (ha : a < 10 ^ w)
    (hb : b < 10 ^ w) :
    padded w a ++ rest < padded w b ++ rest' ↔ a < b ∨ (a = b ∧ rest < rest') := by
  induction w generalizing a b with
  | zero =>
    obtain rfl : a = 0 := by omega
    obtain rfl : b = 0 := by omega
    simp [padded]
  | succ w ih =>
    have digitsA : a / 10 ^ w < 10 := Nat.div_lt_of_lt_mul (by rwa [← pow_succ])
    have digitsB : b / 10 ^ w < 10 := Nat.div_lt_of_lt_mul (by rwa [← pow_succ])
    have lower := ih (Nat.mod_lt a (Nat.pow_pos (by decide : 0 < 10)))
      (Nat.mod_lt b (Nat.pow_pos (by decide : 0 < 10)))
    rw [padded_mod, padded_mod] at lower
    rw [padded, padded, List.cons_append, List.cons_append, List.cons_lt_cons_iff,
      Nat.mod_eq_of_lt digitsA, Nat.mod_eq_of_lt digitsB, digitChar_lt_iff digitsA digitsB,
      digitChar_injective digitsA digitsB, lower]
    have splitA := Nat.div_add_mod a (10 ^ w)
    have splitB := Nat.div_add_mod b (10 ^ w)
    have remA := Nat.mod_lt a (Nat.pow_pos (by decide : 0 < 10) : 0 < 10 ^ w)
    have remB := Nat.mod_lt b (Nat.pow_pos (by decide : 0 < 10) : 0 < 10 ^ w)
    generalize a / 10 ^ w = highA at *
    generalize b / 10 ^ w = highB at *
    generalize a % 10 ^ w = lowA at *
    generalize b % 10 ^ w = lowB at *
    generalize 10 ^ w = unit at *
    rcases Nat.lt_trichotomy highA highB with less | same | more
    · have step : unit * (highA + 1) ≤ unit * highB := Nat.mul_le_mul_left unit less
      rw [Nat.mul_add, Nat.mul_one] at step
      constructor
      · intro _
        exact .inl (by omega)
      · intro _
        exact .inl less
    · subst same
      constructor
      · rintro (less | ⟨-, lowLess | ⟨lowSame, tail⟩⟩)
        · exact absurd less (Nat.lt_irrefl _)
        · exact .inl (by omega)
        · exact .inr ⟨by omega, tail⟩
      · rintro (less | ⟨equal, tail⟩)
        · exact .inr ⟨rfl, .inl (by omega)⟩
        · exact .inr ⟨rfl, .inr ⟨by omega, tail⟩⟩
    · have step : unit * (highB + 1) ≤ unit * highA := Nat.mul_le_mul_left unit more
      rw [Nat.mul_add, Nat.mul_one] at step
      constructor
      · rintro (less | ⟨same, -⟩) <;> omega
      · rintro (less | ⟨equal, -⟩) <;> omega

/-! ### Texts -/

/-- `date.toISOString()`. -/
def toISOString (t : UtcTime) : String :=
  String.ofList <| padded 4 t.year ++ '-' :: (padded 2 t.month ++ '-' :: (padded 2 t.day ++
    'T' :: (padded 2 t.hour ++ ':' :: (padded 2 t.minute ++ ':' :: (padded 2 t.second ++
      '.' :: (padded 3 t.millisecond ++ ['Z']))))))

theorem toISOString_lt_iff {s t : UtcTime} : s.toISOString < t.toISOString ↔ s < t := by
  have two (n : Nat) (small : n < 100) : n < 10 ^ 2 := small
  rw [String.lt_iff_toList_lt, toISOString, toISOString, String.toList_ofList,
    String.toList_ofList, lt_iff, fields, fields,
    padded_append_lt_iff s.year_lt t.year_lt, List.cons_lt_cons_self,
    padded_append_lt_iff (two _ (by have := s.month_le; omega))
      (two _ (by have := t.month_le; omega)), List.cons_lt_cons_self,
    padded_append_lt_iff (two _ (by have := s.day_le; omega))
      (two _ (by have := t.day_le; omega)), List.cons_lt_cons_self,
    padded_append_lt_iff (two _ (by have := s.hour_lt; omega))
      (two _ (by have := t.hour_lt; omega)), List.cons_lt_cons_self,
    padded_append_lt_iff (two _ (by have := s.minute_lt; omega))
      (two _ (by have := t.minute_lt; omega)), List.cons_lt_cons_self,
    padded_append_lt_iff (two _ (by have := s.second_lt; omega))
      (two _ (by have := t.second_lt; omega)), List.cons_lt_cons_self,
    padded_append_lt_iff (by have := s.millisecond_lt; omega)
      (by have := t.millisecond_lt; omega), List.cons_lt_cons_self]
  simp [List.cons_lt_cons_iff]

end UtcTime

end AifHandoff
