import Custody.Number.Binary64

-- The shortest decimal text of a floating-point number: the fewest digits that round back to it,
-- and among those the nearest to it.

namespace Custody.Binary64

structure Decimal where
  coefficient : Nat
  power : Int
  deriving DecidableEq, Repr

inductive Tie where
  | toEven
  | away
  deriving DecidableEq, Repr

def overTen (num den : Nat) (power : Int) : Nat × Nat :=
  if 0 ≤ power then (num,den * Nat.pow 10 power.toNat) else (num * Nat.pow 10 (-power).toNat,den)

-- How many digits stand before the point of a positive quotient; for one below a tenth, minus the
-- zeros behind the point.
def wholeDigits (num den : Nat) : Int :=
  let guess : Int :=
    ((Nat.toDigits 10 num).length : Int) - ((Nat.toDigits 10 den).length : Int)
  let (n,d) := overTen num den guess
  if n < d then guess else guess + 1

-- What rounds to a number, in quarters of the place of its significand: the number itself, the
-- distances down and up, and whether the ends belong to it.
structure Basin where
  centre : Nat
  down : Nat
  up : Nat
  closed : Bool

def basin (significand : Nat) (exponent : Int) : Basin where
  centre := 4 * significand
  down := if significand = Nat.pow 2 52 ∧ -1074 < exponent then 1 else 2
  up := 2
  closed := significand % 2 = 0

def Basin.holds (b : Basin) (exponent : Int) (candidate : Nat) (power : Int) : Bool :=
  let (n,d) := overTen 1 1 (-power)
  let (n,d) := scaleTwo (candidate * n) d (2 - exponent)
  if b.closed then (b.centre - b.down) * d ≤ n && n ≤ (b.centre + b.up) * d
  else (b.centre - b.down) * d < n && n < (b.centre + b.up) * d

def onGrid (tie : Tie) (significand : Nat) (exponent : Int) (whole : Int) (digits : Nat) :
    Option Decimal :=
  let power := whole - digits
  let (num,den) := ratio significand exponent
  let (n,d) := overTen num den power
  let below := n / d
  let b := basin significand exponent
  let low := b.holds exponent below power
  let high := b.holds exponent (below + 1) power
  let preferLow : Bool :=
    2 * (n % d) < d ∨ (2 * (n % d) = d ∧ tie = .toEven ∧ below % 2 = 0)
  if low && (preferLow || !high) then some ⟨below,power⟩
  else if high then
    some (if below + 1 = Nat.pow 10 digits then ⟨1,power + digits⟩ else ⟨below + 1,power⟩)
  else none

-- The shortest decimal of a positive significand. Seventeen digits always suffice.
def shortest (tie : Tie) (significand : Nat) (exponent : Int) : Decimal :=
  let (num,den) := ratio significand exponent
  let whole := wholeDigits num den
  ((List.range 17).findSome? fun n => onGrid tie significand exponent whole (n + 1)).getD ⟨0,0⟩

def zeros (n : Nat) : List Char := List.replicate n '0'

def positional (decimal : Decimal) : List Char :=
  let digits := Nat.toDigits 10 decimal.coefficient
  let point : Int := digits.length + decimal.power
  if 0 ≤ decimal.power then digits ++ zeros decimal.power.toNat ++ ['.','0']
  else if 0 < point then digits.take point.toNat ++ ['.'] ++ digits.drop point.toNat
  else ['0','.'] ++ zeros (-point).toNat ++ digits

def scientific (decimal : Decimal) : List Char :=
  let digits := Nat.toDigits 10 decimal.coefficient
  let exponent : Int := digits.length + decimal.power - 1
  let fraction := if digits.length = 1 then [] else '.' :: digits.drop 1
  digits.take 1 ++ fraction
    ++ ['e',if exponent < 0 then '-' else '+'] ++ Nat.toDigits 10 exponent.natAbs

structure Style where
  tie : Tie
  layout : Decimal → List Char

def Style.plain : Style where
  tie := .away
  layout := positional

-- Positional while the point stands among the first sixteen digits or at most five places before
-- the first, and with an exponent beyond that. A tie goes to the even digit.
def Style.compact : Style where
  tie := .toEven
  layout decimal :=
    let length := (Nat.toDigits 10 decimal.coefficient).length
    let point : Int := length + decimal.power
    if -5 < point ∧ point ≤ 16 then positional decimal else scientific decimal

def Style.write (style : Style) : Binary64 → String
  | nan => "NaN"
  | infinite negative => if negative then "-inf" else "inf"
  | finite negative significand exponent =>
    let sign := if negative then ['-'] else []
    let body :=
      if significand = 0 then ['0','.','0']
      else style.layout (shortest style.tie significand exponent)
    String.ofList (sign ++ body)

end Custody.Binary64
