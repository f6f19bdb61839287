import Mathlib.Algebra.Order.Ring.Int
import Mathlib.Tactic.Ring
import Mathlib.Tactic.Positivity

/-!
# Numbers of a Lua script

A number in a Lua script is an IEEE 754 double. A script that only adds whole numbers stays
within the whole numbers a double can hold, so `number n` is the one nearest to `n`, ties to
even, as a value of `Int`. `infinity` is an
integer beyond every finite double, which is all a comparison sees of it.

What an exact reader needs is `number_of_lt`: below `2 ^ 53` nothing is rounded; and
`le_number`: rounding never brings a larger number back below `2 ^ 53`.
-/

namespace Lua

/-- Stands above every finite double. -/
def infinity : Nat := 2 ^ 1024

theorem le_infinity : 2 ^ 53 ≤ infinity := by
  have hmono (n : Nat) (h : 53 ≤ n) : 2 ^ 53 ≤ 2 ^ n := Nat.pow_le_pow_right (by decide) h
  exact hmono 1024 (by decide)

/-- The double nearest to a natural number, ties to even. -/
def roundNat (n : Nat) : Nat :=
  if n < 2 ^ 53 then n
  else
    let ulp := 2 ^ (n.log2 - 52)
    let q := n / ulp
    let r := n % ulp
    let mantissa := if 2 * r < ulp then q else if ulp < 2 * r then q + 1 else q + q % 2
    min (mantissa * ulp) infinity

/-- `tonumber` of the text of an integer, and the result of adding two numbers whose exact sum
    is `n`. -/
def number (n : Int) : Int :=
  if 0 ≤ n then roundNat n.toNat else -roundNat (-n).toNat

theorem number_of_lt {n : Int} (hlo : 0 ≤ n) (hhi : n < 2 ^ 53) : number n = n := by
  have hn : n.toNat < 2 ^ 53 := by omega
  rw [number, if_pos hlo, roundNat, if_pos hn]
  omega

theorem le_roundNat {n : Nat} (h : 2 ^ 53 ≤ n) : 2 ^ 53 ≤ roundNat n := by
  have hlog : 53 ≤ n.log2 := (Nat.le_log2 (by omega)).mpr h
  -- the mantissa of a number this large has all its 53 bits
  have hq : 2 ^ 52 ≤ n / 2 ^ (n.log2 - 52) := by
    rw [Nat.le_div_iff_mul_le (by positivity), ← Nat.pow_add]
    have hexp : 52 + (n.log2 - 52) = n.log2 := by omega
    rw [hexp]
    exact Nat.log2_self_le (by omega)
  have hulp : 2 ≤ 2 ^ (n.log2 - 52) := by
    calc 2 = 2 ^ 1 := rfl
      _ ≤ 2 ^ (n.log2 - 52) := Nat.pow_le_pow_right (by omega) (by omega)
  rw [roundNat, if_neg (by omega)]
  refine Nat.le_min.mpr ⟨?_, le_infinity⟩
  calc 2 ^ 53 = 2 ^ 52 * 2 := by ring
    _ ≤ _ := Nat.mul_le_mul ?_ hulp
  split
  · exact hq
  · split <;> omega

theorem le_number {n : Int} (h : 2 ^ 53 ≤ n) : 2 ^ 53 ≤ number n := by
  have hn : 2 ^ 53 ≤ n.toNat := by omega
  have hround := le_roundNat hn
  rw [number, if_pos (by omega)]
  omega

theorem number_pos {n : Int} (h : 0 < n) : 0 < number n := by
  by_cases hsmall : n < 2 ^ 53
  · rw [number_of_lt h.le hsmall]
    exact h
  · have hbig := le_number (not_lt.mp hsmall)
    omega

/-- Against a limit a double holds exactly, comparing the rounded number is comparing the
    number. -/
theorem lt_number_iff {limit n : Int} (hlimit : limit < 2 ^ 53) (hn : 0 ≤ n) :
    limit < number n ↔ limit < n := by
  by_cases hsmall : n < 2 ^ 53
  · rw [number_of_lt hn hsmall]
  · have hbig := le_number (not_lt.mp hsmall)
    constructor <;> intro <;> omega

/-- Adding to a rounded number, in the same comparison, is adding to the number. -/
theorem lt_number_add_iff {limit a b : Int} (hlimit : limit < 2 ^ 53) (ha : 0 ≤ a)
    (hb : 0 ≤ b) (ha' : a < 2 ^ 53) :
    limit < number (number a + number b) ↔ limit < a + b := by
  rw [number_of_lt ha ha']
  by_cases hsmall : b < 2 ^ 53
  · rw [number_of_lt hb hsmall]
    exact lt_number_iff hlimit (by omega)
  · have hbig := le_number (not_lt.mp hsmall)
    rw [lt_number_iff hlimit (by omega)]
    constructor <;> intro <;> omega

example : number (2 ^ 53 + 1) = 2 ^ 53 ∧ number (2 ^ 53 + 3) = 2 ^ 53 + 4 := by decide +kernel

end Lua
