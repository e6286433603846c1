-- Floating-point numbers of 64 bits, as exact values: a significand below 2^53 times a power of
-- two that is at least 2^-1074.

namespace Custody

inductive Binary64 where
  | finite (negative : Bool) (significand : Nat) (exponent : Int)
  | infinite (negative : Bool)
  | nan
  deriving DecidableEq, Repr

namespace Binary64

def divideToEven (num den : Nat) : Nat :=
  let down := num / den
  let twice := 2 * (num % den)
  if twice < den ∨ (twice = den ∧ down % 2 = 0) then down else down + 1

def scaleTwo (num den : Nat) (power : Int) : Nat × Nat :=
  if 0 ≤ power then (num * Nat.pow 2 power.toNat,den) else (num,den * Nat.pow 2 (-power).toNat)

def nearest (num den : Nat) : Option (Nat × Int) :=
  if num = 0 then some (0,-1074)
  else
    let size : Int := (num.log2 : Int) - den.log2
    let (n,d) := scaleTwo num den (-size)
    let exponent := max (if n < d then size - 53 else size - 52) (-1074)
    let (n,d) := scaleTwo num den (-exponent)
    let rounded := divideToEven n d
    let (significand,exponent) :=
      if rounded = Nat.pow 2 53 then (Nat.pow 2 52,exponent + 1) else (rounded,exponent)
    if exponent ≤ 971 then some (significand,exponent) else none

def ofRatio (negative : Bool) (num den : Nat) : Binary64 :=
  match nearest num den with
  | some (significand,exponent) => finite negative significand exponent
  | none => infinite negative

def ofNat (n : Nat) : Binary64 := ofRatio false n 1

def ratio (significand : Nat) (exponent : Int) : Nat × Nat := scaleTwo significand 1 exponent

def mul : Binary64 → Binary64 → Binary64
  | finite _ s e,finite _ t f =>
    let (n,d) := ratio (s * t) (e + f)
    ofRatio false n d
  | nan,_ | _,nan => nan
  | _,_ => infinite false

def div : Binary64 → Binary64 → Binary64
  | finite _ s e,finite _ t f =>
    let (n,d) := scaleTwo s t (e - f)
    ofRatio false n d
  | finite _ _ _,infinite _ => finite false 0 (-1074)
  | infinite _,finite _ _ _ => infinite false
  | _,_ => nan

def isZero : Binary64 → Bool
  | finite _ 0 _ => true
  | _ => false

def negate : Binary64 → Binary64
  | finite negative s e => finite (!negative) s e
  | infinite negative => infinite (!negative)
  | nan => nan

-- The number nearest to `coefficient * 10^power`. Far beyond either end of the range the answer
-- does not depend on the digits, so no large power is computed there.
def ofDecimal (negative : Bool) (coefficient : Nat) (power : Int) : Binary64 :=
  let digits : Int := (Nat.toDigits 10 coefficient).length
  if coefficient = 0 ∨ digits + power < -400 then finite negative 0 (-1074)
  else if 400 < digits + power then infinite negative
  else if 0 ≤ power then ofRatio negative (coefficient * Nat.pow 10 power.toNat) 1
  else ofRatio negative coefficient (Nat.pow 10 (-power).toNat)

end Binary64

end Custody
