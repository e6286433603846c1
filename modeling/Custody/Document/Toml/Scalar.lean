import Custody.Document.Node
import Custody.Document.Toml.Text

namespace Custody.Document.Toml

def digits (isDigit : Char → Bool) : List Char → Option (List Char × List Char)
  | [] => none
  | c :: rest =>
    if !isDigit c then none
    else match rest with
      | '_' :: rest => do
        let (more,rest) ← digits isDigit rest
        some (c :: more,rest)
      | rest =>
        match digits isDigit rest with
        | some (more,rest) => some (c :: more,rest)
        | none =>
          -- An underscore further on that joins nothing is a fault; no digit at all is the end.
          if (rest.head?.map isDigit).getD false then none else some ([c],rest)

def isDecimal (c : Char) : Bool := '0' ≤ c && c ≤ '9'

def isHex (c : Char) : Bool := (Text.hexValue? c).isSome

def isOctal (c : Char) : Bool := '0' ≤ c && c ≤ '7'

def isBinary (c : Char) : Bool := c = '0' || c = '1'

def wholeValue (base : Nat) (cs : List Char) : Nat :=
  cs.foldl (fun n c => base * n + (Text.hexValue? c).getD 0) 0

def splitSign : List Char → Bool × List Char
  | '-' :: rest => (true,rest)
  | '+' :: rest => (false,rest)
  | cs => (false,cs)

def wholeDigits? : List Char → Option (List Char × List Char)
  | '0' :: rest => some (['0'],rest)
  | cs => digits isDecimal cs

def integerNode? (value : Int) : Option Node :=
  if -9223372036854775808 ≤ value ∧ value ≤ 9223372036854775807 then some (.integer value)
  else none

def integer? (cs : List Char) : Option (Node × List Char) :=
  let based (base : Nat) (isDigit : Char → Bool) (cs : List Char) := do
    let (found,rest) ← digits isDigit cs
    let node ← integerNode? (wholeValue base found)
    some (node,rest)
  match cs with
  | '0' :: 'x' :: rest => based 16 isHex rest
  | '0' :: 'o' :: rest => based 8 isOctal rest
  | '0' :: 'b' :: rest => based 2 isBinary rest
  | cs => do
    let (negative,rest) := splitSign cs
    let (found,rest) ← wholeDigits? rest
    let value : Int := wholeValue 10 found
    let node ← integerNode? (if negative then -value else value)
    some (node,rest)

def fraction? : List Char → Option (Option (List Char) × List Char)
  | '.' :: rest => do
    let (found,rest) ← digits isDecimal rest
    some (some found,rest)
  | cs => some (none,cs)

def exponent? : List Char → Option (Option Int × List Char)
  | c :: rest =>
    if c = 'e' ∨ c = 'E' then do
      let (negative,rest) := splitSign rest
      let (found,rest) ← digits isDecimal rest
      let value : Int := wholeValue 10 found
      some (some (if negative then -value else value),rest)
    else some (none,c :: rest)
  | [] => some (none,[])

def special? (negative : Bool) : List Char → Option (Node × List Char)
  | 'i' :: 'n' :: 'f' :: rest => some (.float (.infinite negative),rest)
  | 'n' :: 'a' :: 'n' :: rest => some (.float .nan,rest)
  | _ => none

-- A number with a point, an exponent or both. One that is too large is a fault if positive.
def float? (cs : List Char) : Option (Node × List Char) :=
  let (negative,rest) := splitSign cs
  match special? negative rest with
  | some found => some found
  | none => do
    let (whole,rest) ← wholeDigits? rest
    let (fraction,rest) ← fraction? rest
    let (exponent,rest) ← exponent? rest
    if fraction.isNone && exponent.isNone then none
    else
      let behind := fraction.getD []
      let value := Binary64.ofDecimal negative (wholeValue 10 (whole ++ behind))
        (exponent.getD 0 - behind.length)
      if value = .infinite false then none else some (.float value,rest)

def fixed? (count : Nat) (cs : List Char) : Option (Nat × List Char) :=
  let found := cs.take count
  if found.length = count ∧ found.all isDecimal then some (wholeValue 10 found,cs.drop count)
  else none

def after? (expected : List Char) : List Char → Option (List Char)
  | c :: rest => if expected.contains c then some rest else none
  | [] => none

def daysIn (year month : Nat) : Nat :=
  if month = 2 then
    if year % 4 = 0 ∧ (year % 100 ≠ 0 ∨ year % 400 = 0) then 29 else 28
  else if month = 4 ∨ month = 6 ∨ month = 9 ∨ month = 11 then 30
  else 31

def date? (cs : List Char) : Option (List Char) := do
  let (year,rest) ← fixed? 4 cs
  let rest ← after? ['-'] rest
  let (month,rest) ← fixed? 2 rest
  let rest ← after? ['-'] rest
  let (day,rest) ← fixed? 2 rest
  if 1 ≤ month ∧ month ≤ 12 ∧ 1 ≤ day ∧ day ≤ daysIn year month then some rest else none

def hourMinute? (cs : List Char) : Option (List Char) := do
  let (hour,rest) ← fixed? 2 cs
  let rest ← after? [':'] rest
  let (minute,rest) ← fixed? 2 rest
  if hour < 24 ∧ minute < 60 then some rest else none

def time? (cs : List Char) : Option (List Char) := do
  let rest ← hourMinute? cs
  let rest ← after? [':'] rest
  let (second,rest) ← fixed? 2 rest
  if 60 < second then none
  else match rest with
    | '.' :: more =>
      let behind := more.dropWhile isDecimal
      if behind.length = more.length then none else some behind
    | rest => some rest

def offset? (cs : List Char) : Option (List Char) :=
  match after? ['Z','z'] cs with
  | some rest => some rest
  | none =>
    match after? ['+','-'] cs with
    | some rest => hourMinute? rest
    | none => some cs

def skipMoment? (cs : List Char) : Option (List Char) :=
  match date? cs with
  | none => time? cs
  | some rest =>
    match (after? ['T','t',' '] rest).bind time? with
    | none => some rest
    | some rest => offset? rest

def moment? (cs : List Char) : Option (Node × List Char) :=
  (skipMoment? cs).map fun rest =>
    (.moment (String.ofList (cs.take (cs.length - rest.length))),rest)

def numberOrMoment? (cs : List Char) : Option (Node × List Char) :=
  (moment? cs).orElse fun () => (float? cs).orElse fun () => integer? cs

end Custody.Document.Toml
