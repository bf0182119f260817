import Gamebook.Json
import Gamebook.Text.Decimal

/-!
Magnitudes of numbers. A reader of JSON keeps a number in binary floating point of 64 bits. It
takes the leading digits that fit into a 64-bit word, passes over the rest, and multiplies by a
power of ten, rounding both factors to 53 binary digits before and their product after.
-/

set_option autoImplicit false

namespace Gamebook.Json

def precision : Nat := 53

-- The nearest number with no more binary digits than the precision; halfway between two of
-- them, the one with the even last digit.
def rounded (size : Nat) : Nat :=
  let unit := Nat.pow 2 (size.log2 + 1 - precision)
  let units := size / unit
  let rest := size % unit
  if unit < 2 * rest ∨ (unit = 2 * rest ∧ units % 2 = 1) then (units + 1) * unit
  else units * unit

def leading (size : Nat) : Nat × Nat :=
  if size < Text.Decimal.wordBound then (size, 0)
  else
    let (kept, passed) := leading (size / 10)
    (kept, passed + 1)
termination_by size
decreasing_by
  rename_i large
  have positive : 0 < Text.Decimal.wordBound := by decide
  exact Nat.div_lt_self (Nat.lt_of_lt_of_le positive (Nat.le_of_not_lt large)) (by decide)

def finiteBound : Nat := Nat.pow 2 1024 - Nat.pow 2 970

def largestPower : Nat := 308

def isFinite (digits : Nat) (exponent : Int) : Bool :=
  let (kept, passed) := leading digits
  match exponent + passed with
  | .ofNat power =>
    kept = 0 ||
      (power ≤ largestPower && rounded kept * rounded (Nat.pow 10 power) < finiteBound)
  | .negSucc _ => true

end Gamebook.Json

namespace Gamebook

def JsonNumber.isFinite : JsonNumber → Bool
  | .integer value => Json.isFinite value.natAbs 0
  | .decimal _ digits exponent => Json.isFinite digits exponent

end Gamebook
