import Custody.Document.Node

namespace Custody.Document.Json

def isDigit (c : Char) : Bool := '0' ≤ c && c ≤ '9'

def digitValue (c : Char) : Nat := c.toNat - 0x30

def splitDigits (cs : List Char) : List Char × List Char :=
  (cs.takeWhile isDigit,cs.dropWhile isDigit)

structure Numeral where
  negative : Bool
  whole : List Char
  fraction : Option (List Char)
  exponent : Option (Bool × List Char)

def splitSign : List Char → Bool × List Char
  | '-' :: rest => (true,rest)
  | cs => (false,cs)

def splitFraction : List Char → Option (Option (List Char) × List Char)
  | '.' :: rest =>
    let (digits,rest) := splitDigits rest
    if digits.isEmpty then none else some (some digits,rest)
  | cs => some (none,cs)

def splitExponent : List Char → Option (Option (Bool × List Char) × List Char)
  | c :: rest =>
    if c = 'e' ∨ c = 'E' then
      let (negative,rest) := match rest with
        | '+' :: rest => (false,rest)
        | '-' :: rest => (true,rest)
        | _ => (false,rest)
      let (digits,rest) := splitDigits rest
      if digits.isEmpty then none else some (some (negative,digits),rest)
    else some (none,c :: rest)
  | [] => some (none,[])

-- A numeral at the start of a text, and the rest. A zero in front of other digits is none.
def splitNumeral (cs : List Char) : Option (Numeral × List Char) := do
  let (negative,rest) := splitSign cs
  let (whole,rest) := splitDigits rest
  if whole.isEmpty || (whole.head? == some '0' && whole.length ≠ 1) then none
  else
    let (fraction,rest) ← splitFraction rest
    let (exponent,rest) ← splitExponent rest
    some (⟨negative,whole,fraction,exponent⟩,rest)

structure Significand where
  value : Nat
  full : Bool
  power : Int

def Significand.push (wholePart : Bool) (s : Significand) (c : Char) : Significand :=
  let next := 10 * s.value + digitValue c
  if s.full ∨ Nat.pow 2 64 ≤ next then
    { s with full := true, power := if wholePart then s.power + 1 else s.power }
  else { s with value := next, power := if wholePart then s.power else s.power - 1 }

-- The digits before and behind the point as far as they fit. A digit behind the point is taken if
-- it fits, even if one before the point was left out.
def significand (n : Numeral) : Significand :=
  let whole := n.whole.foldl (Significand.push true) ⟨0,false,0⟩
  (n.fraction.getD []).foldl (Significand.push false) { whole with full := false }

def powerOfTen (n : Nat) : Binary64 := .ofRatio false (Nat.pow 10 n) 1

-- Scales a number by a power of ten in one step, or in steps of 308 while it is too small for
-- one. None if the result is infinite.
def scaleTen : Nat → Binary64 → Int → Option Binary64
  | fuel,value,power =>
    if power.natAbs ≤ 308 then
      if 0 ≤ power then
        match value.mul (powerOfTen power.natAbs) with
        | .infinite _ => none
        | scaled => some scaled
      else some (value.div (powerOfTen power.natAbs))
    else if value.isZero then some value
    else if 0 ≤ power then none
    else match fuel with
      | 0 => some (.finite false 0 (-1074))
      | fuel+1 => scaleTen fuel (value.div (powerOfTen 308)) (power + 308)

-- The largest exponent that is counted; one step further it is only known to be large.
def largestExponent : Int := 2147483647

def wholeValue (digits : List Char) : Nat := digits.foldl (fun n c => 10 * n + digitValue c) 0

def floatValue (n : Numeral) : Option Binary64 :=
  let s := significand n
  let magnitude : Option Binary64 :=
    match n.exponent with
    | none => scaleTen 4 (.ofNat s.value) s.power
    | some (negative,digits) =>
      let exponent : Int := wholeValue digits
      if largestExponent < exponent then
        if s.value ≠ 0 ∧ !negative then none else some (.finite false 0 (-1074))
      else
        let power := if negative then s.power - exponent else s.power + exponent
        let power := max (-largestExponent - 1) (min largestExponent power)
        scaleTen 4 (.ofNat s.value) power
  magnitude.map fun value => if n.negative then value.negate else value

def Numeral.node (n : Numeral) : Node :=
  let value := wholeValue n.whole
  let isWhole : Bool := n.fraction.isNone && n.exponent.isNone
    && (if n.negative then 0 < value && value ≤ Nat.pow 2 63 else value < Nat.pow 2 64)
  if isWhole then .integer (if n.negative then -(value : Int) else value)
  else match floatValue n with
    | some value => .float value
    | none => .unreadable

end Custody.Document.Json
