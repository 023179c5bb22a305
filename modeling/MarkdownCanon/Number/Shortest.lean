import MarkdownCanon.Number.Double

/-! The text of a double: the fewest digits that read back as it, and of several such decimals the
nearest. -/

namespace MarkdownCanon.Double

/-- A decimal: `digits` times ten to the power `power`. -/
structure Decimal where
  digits : Nat
  power : Int
  deriving DecidableEq, Repr, Inhabited

/-- The power of ten that the first digit of a quotient stands for. -/
def leadingPower (num den : Nat) : Int :=
  let shift : Int := (digitCount den : Int) - digitCount num
  let (n, d) := scale 10 shift num den
  if d ≤ n then -shift else -shift - 1

/-- The decimal nearest to a quotient of those that have `count` digits and read back as `x`: one
of its two neighbours, if there is any. -/
def decimalOf? (x : Double) (num den count : Nat) : Option Decimal :=
  let power := leadingPower num den - count + 1
  let (n, d) := scale 10 (-power) num den
  let nearest := roundDiv n d
  let below := n / d
  ([nearest, below, below + 1].map fun digits => (⟨digits, power⟩ : Decimal)).find? fun decimal =>
    ofDecimal false decimal.digits decimal.power == x

/-- The shortest decimal that reads back as a positive double; seventeen digits always do. -/
def shortest (significand : Nat) (exponent : Int) : Decimal :=
  let (num, den) := scale 2 exponent significand 1
  (((List.range 17).map (· + 1)).findSome?
    (decimalOf? (.finite false significand exponent) num den)).getD default

/-- Takes off the zeros at the end of a number, at most `steps` of them. -/
def dropZeros : Nat → Nat → Nat
  | 0, n => n
  | steps + 1, n => if n % 10 == 0 then dropZeros steps (n / 10) else n

/-- Digits with the first of them standing for ten to the power `lead`. Positional below ten to the
sixteenth and from a ten-thousandth on, else with an exponent of two digits at least; there is
always a digit after the point of a positional number. -/
def layout (digits : List Char) (lead : Int) : List Char :=
  if lead < -4 || 16 ≤ lead then
    let power := Nat.toDigits 10 lead.natAbs
    digits.take 1 ++ (if digits.length == 1 then [] else '.' :: digits.drop 1) ++
      'e' :: (if lead < 0 then '-' else '+') ::
      (List.replicate (2 - power.length) '0' ++ power)
  else if lead < 0 then '0' :: '.' :: List.replicate (lead.natAbs - 1) '0' ++ digits
  else
    let whole := lead.toNat + 1
    let padded := digits ++ List.replicate (whole + 1 - digits.length) '0'
    padded.take whole ++ '.' :: padded.drop whole

def unsignedLiteral (significand : Nat) (exponent : Int) : List Char :=
  if significand == 0 then ['0', '.', '0']
  else
    let decimal := shortest significand exponent
    let count := digitCount decimal.digits
    layout (Nat.toDigits 10 (dropZeros count decimal.digits)) (decimal.power + count - 1)

def literal : Double → String
  | finite negative significand exponent =>
    (if negative then "-" else "") ++ String.ofList (unsignedLiteral significand exponent)
  | infinite negative => if negative then "-inf" else "inf"

end MarkdownCanon.Double
