/- JSON numerals as exact decimals, and which of them are refused as too large.
   Reading never rounds: only the test for size looks at double precision. -/
import SceneConfig.Double

namespace SceneConfig.Json

/-- The number `mantissa * 10 ^ exponent`, with the digits as they were written. -/
structure Number where
  mantissa : Int
  exponent : Int
deriving DecidableEq, Repr, Inhabited

namespace Number

def ofNat (n : Nat) : Number := ⟨n, 0⟩

/-- The leading digits of `n` that fit 64 bits, and how many digits follow them. -/
def leading (n : Nat) : Nat × Nat :=
  if h : n < Nat.pow 2 64 then (n, 0)
  else
    have large : 0 < n := Nat.lt_of_lt_of_le (by decide) (Nat.not_lt.mp h)
    have : n / 10 < n := Nat.div_lt_self large (by decide)
    let (digits, dropped) := leading (n / 10)
    (digits, dropped + 1)

theorem leading_of_lt {n : Nat} (h : n < Nat.pow 2 64) : leading n = (n, 0) := by
  rw [leading, dif_pos h]

/-- Whether the double nearest the leading digits, times the double nearest the power of ten
left over, is finite. Zero is, at any exponent, and so is every number scaled down. -/
def isFinite (n : Number) : Bool :=
  let (digits, dropped) := leading n.mantissa.natAbs
  let scale := n.exponent + dropped
  digits == 0 || scale ≤ 0 || (scale ≤ 308 &&
    Double.nearest digits * Double.nearest (Nat.pow 10 scale.toNat) < Double.overflow)

end Number

end SceneConfig.Json
