/- Rounding of natural numbers to double precision, by exact arithmetic.
   Only the size of a number matters here: no double is ever stored or printed. -/

namespace SceneConfig.Double

/-- The nearest number of at most 53 significant bits; a tie goes to the even neighbour. -/
def nearest (n : Nat) : Nat :=
  let unit := Nat.pow 2 (n.log2 + 1 - 53)
  let quotient := n / unit
  let rest := n % unit
  if 2 * rest < unit ∨ (2 * rest = unit ∧ quotient % 2 = 0) then quotient * unit
  else (quotient + 1) * unit

/-- The least natural number that rounds to infinity. -/
def overflow : Nat := Nat.pow 2 1024 - Nat.pow 2 970

end SceneConfig.Double
