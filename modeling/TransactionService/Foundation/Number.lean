import Mathlib.Algebra.Group.Nat.Defs

namespace TransactionService.Number

/-! # Numbers of a JavaScript program

Natural numbers as doubles: a significand of 53 bits, and infinity beyond the
largest finite one. -/

inductive Double
  | finite (value : Nat)
  | infinite

/-- The nearest natural number with a significand of 53 bits; a tie goes to the
even significand. -/
def roundToNearest (value : Nat) : Nat :=
  let unit := 2 ^ (value.log2 + 1 - 53)
  let below := value / unit
  let rest := value % unit
  if unit < 2 * rest ∨ (2 * rest = unit ∧ below % 2 = 1) then (below + 1) * unit
  else below * unit

def ofNat (value : Nat) : Double :=
  if roundToNearest value < 2 ^ 1024 then .finite (roundToNearest value) else .infinite

/-- `elapsed < limit`. -/
def Double.Exceeds (limit : Double) (elapsed : Int) : Prop :=
  match limit with
  | .finite value => elapsed < value
  | .infinite => True

instance (limit : Double) (elapsed : Int) : Decidable (limit.Exceeds elapsed) :=
  match limit with
  | .finite value => inferInstanceAs (Decidable (elapsed < value))
  | .infinite => isTrue trivial

theorem product_lt {significand exponent limit : Nat} (short : significand < 2 ^ 53)
    (room : 53 + exponent ≤ limit) : significand * 2 ^ exponent < 2 ^ limit := by
  calc significand * 2 ^ exponent
      < 2 ^ 53 * 2 ^ exponent := Nat.mul_lt_mul_of_pos_right short (Nat.two_pow_pos exponent)
    _ = 2 ^ (53 + exponent) := (Nat.pow_add 2 53 exponent).symm
    _ ≤ 2 ^ limit := Nat.pow_le_pow_right (by decide) room

theorem roundToNearest_exact {significand : Nat} (short : significand < 2 ^ 53)
    (exponent : Nat) :
    roundToNearest (significand * 2 ^ exponent) = significand * 2 ^ exponent := by
  have divides : 2 ^ ((significand * 2 ^ exponent).log2 + 1 - 53) ∣
      significand * 2 ^ exponent := by
    apply Nat.dvd_mul_left_of_dvd
    apply Nat.pow_dvd_pow
    by_cases zero : significand * 2 ^ exponent = 0
    · simp [zero]
    · have := (Nat.log2_lt zero).mpr (product_lt short (Nat.le_refl _))
      omega
  have positive : 0 < 2 ^ ((significand * 2 ^ exponent).log2 + 1 - 53) := Nat.two_pow_pos _
  unfold roundToNearest
  dsimp only
  rw [Nat.mod_eq_zero_of_dvd divides, if_neg (by omega), Nat.div_mul_cancel divides]

theorem ofNat_exact {value significand exponent : Nat}
    (isProduct : value = significand * 2 ^ exponent) (short : significand < 2 ^ 53)
    (inRange : exponent ≤ 971) : ofNat value = .finite value := by
  have bound : value < 2 ^ 1024 := by
    rw [isProduct]
    exact product_lt short (by omega)
  have kept : roundToNearest value = value := by
    rw [isProduct, roundToNearest_exact short]
  unfold ofNat
  rw [kept, if_pos bound]

end TransactionService.Number
