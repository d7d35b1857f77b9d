/-!
# One decimal place

A 32-bit float is printed with one decimal place from its exact value, and a value halfway between
two tenths goes to the even one. `binary` takes the float apart, `roundHalfEven` rounds a quotient of
natural numbers, and `tenths` puts the two together.
-/

namespace DualSlot.Text

/-- The integer nearest to `num / den`; of two equally near ones the even one. -/
def roundHalfEven (num den : Nat) : Nat :=
  let quotient := num / den
  let twice := 2 * (num % den)
  if twice < den then quotient
  else if den < twice then quotient + 1
  else quotient + quotient % 2

/-- A finite non-negative float as `(m, e)` with the value `m * 2 ^ (e - 149)`. -/
def binary (x : Float32) : Nat × Nat :=
  let bits := x.toBits.toNat
  let exponent := (bits >>> 23) % 256
  let fraction := bits % (1 <<< 23)
  if exponent = 0 then (fraction, 0) else ((1 <<< 23) + fraction, exponent - 1)

/-- A finite non-negative float in tenths, rounded half to even. -/
def tenths (x : Float32) : Nat :=
  let (m, e) := binary x
  roundHalfEven ((m * 10) <<< e) (1 <<< 149)

/-- A finite non-negative float with one decimal place. -/
def oneDecimal (x : Float32) : String :=
  s!"{tenths x / 10}.{tenths x % 10}"

end DualSlot.Text
