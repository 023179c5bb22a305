/-! Numbers of the double format, with 53 bits of precision. Decimals are read to the nearest one,
and of two that are equally near to the one with an even last bit. -/

namespace MarkdownCanon

/-- A double: `significand` times two to the power `exponent`. Zero has a sign too, and numbers
that are too large are infinite. -/
inductive Double where
  | finite (negative : Bool) (significand : Nat) (exponent : Int)
  | infinite (negative : Bool)
  deriving DecidableEq, Repr, Inhabited

namespace Double

def precision : Nat := 53

def leastExponent : Int := -1074

def greatestExponent : Int := 971

/-- A quotient to the nearest whole number, the even one of two. -/
def roundDiv (num den : Nat) : Nat :=
  let q := num / den
  let rest := 2 * (num % den)
  if rest < den || (rest == den && q % 2 == 0) then q else q + 1

/-- A quotient of whole numbers that is times `base` to the power `power`. -/
def scale (base : Nat) (power : Int) (num den : Nat) : Nat × Nat :=
  if 0 ≤ power then (num * Nat.pow base power.toNat, den)
  else (num, den * Nat.pow base power.natAbs)

/-- The exponent at which a quotient has all bits of the precision, or the least one. -/
def exponentOf (num den : Nat) : Int :=
  let high : Int := (num.log2 : Int) - den.log2
  let (n, d) := scale 2 (-high) num den
  max leastExponent ((if d ≤ n then high else high - 1) + 1 - precision)

/-- The double nearest to a quotient. -/
def ofRatio (negative : Bool) (num den : Nat) : Double :=
  if num == 0 then .finite negative 0 0
  else
    let exponent := exponentOf num den
    let (n, d) := scale 2 (-exponent) num den
    let significand := roundDiv n d
    let carried := significand == Nat.pow 2 precision
    let exponent := if carried then exponent + 1 else exponent
    if greatestExponent < exponent then .infinite negative
    else .finite negative (if carried then significand / 2 else significand) exponent

def digitCount (n : Nat) : Nat := (Nat.toDigits 10 n).length

/-- The double nearest to `digits` times ten to the power `power`. Powers far out of range are not
worked out. -/
def ofDecimal (negative : Bool) (digits : Nat) (power : Int) : Double :=
  let size := power + digitCount digits
  if digits == 0 || size < -400 then .finite negative 0 0
  else if 400 < size then .infinite negative
  else
    let (num, den) := scale 10 power digits 1
    ofRatio negative num den

/-- The number of a text of digits. -/
def readDigits (cs : List Char) : Nat := cs.foldl (fun n c => 10 * n + (c.toNat - '0'.toNat)) 0

def readSigned : List Char → Int
  | '-' :: rest => -(readDigits rest : Int)
  | '+' :: rest => readDigits rest
  | cs => readDigits cs

/-- Reads a number with a fraction, with an exponent or with both. -/
def ofText (cs : List Char) : Double :=
  let negative := cs.head? == some '-'
  let unsigned := if negative then cs.drop 1 else cs
  let isMark := fun c => c == 'e' || c == 'E'
  let mantissa := unsigned.takeWhile (!isMark ·)
  let power := readSigned ((unsigned.dropWhile (!isMark ·)).drop 1)
  let whole := mantissa.takeWhile (· != '.')
  let fraction := (mantissa.dropWhile (· != '.')).drop 1
  ofDecimal negative (readDigits (whole ++ fraction)) (power - fraction.length)

def isZero : Double → Bool
  | finite _ significand _ => significand == 0
  | infinite _ => false

def withSign (negative : Bool) (n : Nat) : Int := if negative then -n else n

/-- Whether a double has the value of a whole number. -/
def isInt (n : Int) : Double → Bool
  | infinite _ => false
  | finite negative significand exponent =>
    let (num, den) := scale 2 exponent significand 1
    withSign negative num == n * den

/-- Equality of values; the two zeros are equal. -/
def same : Double → Double → Bool
  | x, y => x == y || (x.isZero && y.isZero)

end Double

end MarkdownCanon
