import Custody.Text.Literal

namespace Custody.Text

def hexDigit (n : Nat) : Char :=
  if n < 10 then Char.ofNat (0x30 + n) else Char.ofNat (0x57 + n)

def hexValue? (c : Char) : Option Nat :=
  let n := c.toNat
  if 0x30 ≤ n ∧ n ≤ 0x39 then some (n - 0x30)
  else if 0x61 ≤ n ∧ n ≤ 0x66 then some (n - 0x57)
  else if 0x41 ≤ n ∧ n ≤ 0x46 then some (n - 0x37)
  else none

def hexByte (b : UInt8) : List Char := [hexDigit (b.toNat / 16),hexDigit (b.toNat % 16)]

def hexText (bytes : List UInt8) : String := String.ofList (bytes.flatMap hexByte)

inductive HexFault where
  | oddLength
  | badDigit (byte : UInt8) (position : Nat)
  deriving DecidableEq, Repr

def leadByte (c : Char) : UInt8 :=
  let n := c.toNat
  if n < 0x80 then UInt8.ofNat n
  else if n < 0x800 then UInt8.ofNat (0xc0 + n / 0x40)
  else if n < 0x10000 then UInt8.ofNat (0xe0 + n / 0x1000)
  else UInt8.ofNat (0xf0 + n / 0x40000)

-- The numbers of a row of digits. A digit is one byte long, so the place of the first character
-- that is none is also its distance in bytes.
def hexValues (position : Nat) : List Char → Except HexFault (List Nat)
  | [] => .ok []
  | c :: rest =>
    match hexValue? c with
    | none => .error (.badDigit (leadByte c) position)
    | some value => (hexValues (position + 1) rest).map (value :: ·)

def pairDigits : List Nat → List UInt8
  | high :: low :: rest => UInt8.ofNat (16 * high + low) :: pairDigits rest
  | _ => []

def readHex (s : String) : Except HexFault (List UInt8) :=
  if s.utf8ByteSize % 2 = 1 then .error .oddLength
  else (hexValues 0 s.toList).map pairDigits

-- The wording of a fault. A byte is shown as the character of its number.
def HexFault.message : HexFault → String
  | .oddLength => "Odd number of digits"
  | .badDigit byte position =>
    s!"Invalid character {quotedChar (Char.ofNat byte.toNat)} at position {position}"

end Custody.Text
