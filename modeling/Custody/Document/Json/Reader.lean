import Custody.Document.Codec
import Custody.Document.Json.Number
import Custody.Number.Shortest
import Custody.Text.Hex

namespace Custody.Document.Json

def isSpace (c : Char) : Bool := c = ' ' || c = '\n' || c = '\t' || c = '\r'

def skipSpace (cs : List Char) : List Char := cs.dropWhile isSpace

def codeUnit? : List Char → Option (Nat × List Char)
  | a :: b :: c :: d :: rest => do
    let a ← Text.hexValue? a
    let b ← Text.hexValue? b
    let c ← Text.hexValue? c
    let d ← Text.hexValue? d
    some (4096 * a + 256 * b + 16 * c + d,rest)
  | _ => none

inductive Quoted where
  | text (characters : List Char)
  | unpaired

def Quoted.push (c : Char) : Quoted → Quoted
  | text cs => text (c :: cs)
  | unpaired => unpaired

def escaped? (c : Char) : Option Char :=
  if c = '"' ∨ c = '\\' ∨ c = '/' then some c
  else if c = 'b' then some (Char.ofNat 0x8)
  else if c = 'f' then some (Char.ofNat 0xc)
  else if c = 'n' then some '\n'
  else if c = 'r' then some '\r'
  else if c = 't' then some '\t'
  else none

def secondHalf? (first : Nat) : List Char → Option (Nat × List Char)
  | '\\' :: 'u' :: rest => do
    let (second,rest) ← codeUnit? rest
    if first < 0xdc00 ∧ 0xdc00 ≤ second ∧ second < 0xe000 then
      some (0x10000 + 0x400 * (first - 0xd800) + (second - 0xdc00),rest)
    else none
  | _ => none

-- The character of an escape behind its backslash. None within is half a surrogate pair.
def escape? : List Char → Option (Option Char × List Char)
  | [] => none
  | 'u' :: rest => do
    let (unit,rest) ← codeUnit? rest
    if unit < 0xd800 ∨ 0xe000 ≤ unit then some (some (Char.ofNat unit),rest)
    else match secondHalf? unit rest with
      | some (point,rest) => some (some (Char.ofNat point),rest)
      | none => some (none,rest)
  | c :: rest => (escaped? c).map fun c => (some c,rest)

def quotedText : Nat → List Char → Option (Quoted × List Char)
  | 0,_ => none
  | _,[] => none
  | fuel+1,c :: rest =>
    if c = '"' then some (.text [],rest)
    else if c.toNat < 0x20 then none
    else if c ≠ '\\' then do
      let (found,rest) ← quotedText fuel rest
      some (found.push c,rest)
    else do
      let (c,rest) ← escape? rest
      let (found,rest) ← quotedText fuel rest
      some (match c with | some c => found.push c | none => .unpaired,rest)

def Quoted.key : Quoted → Option String
  | text cs => some (String.ofList cs)
  | unpaired => none

def Quoted.node : Quoted → Node
  | text cs => .text (String.ofList cs)
  | unpaired => .unreadable

def word (letters : String) (node : Node) (cs : List Char) : Node × Option (List Char) :=
  let letters := letters.toList
  if letters.isPrefixOf cs then (node,some (cs.drop letters.length)) else (.missing,none)

mutual

def value : Nat → List Char → Node × Option (List Char)
  | 0,_ => (.missing,none)
  | fuel+1,cs =>
    match skipSpace cs with
    | [] => (.missing,none)
    | 'n' :: rest => word "null" .null ('n' :: rest)
    | 't' :: rest => word "true" (.boolean true) ('t' :: rest)
    | 'f' :: rest => word "false" (.boolean false) ('f' :: rest)
    | '"' :: rest =>
      match quotedText (rest.length + 1) rest with
      | some (found,rest) => (found.node,some rest)
      | none => (.missing,none)
    | '[' :: rest =>
      let (items,tail) := items fuel true rest
      (.list items tail.isSome,tail)
    | c :: rest =>
      if c = Char.ofNat 0x7b then
        let (fields,tail) := fields fuel true rest
        (.table fields tail.isSome,tail)
      else if c = '-' ∨ isDigit c then
        match splitNumeral (c :: rest) with
        | some (numeral,rest) => (numeral.node,some rest)
        | none => (.missing,none)
      else (.missing,none)

def items : Nat → (first : Bool) → List Char → List Node × Option (List Char)
  | 0,_,_ => ([],none)
  | fuel+1,first,cs =>
    match skipSpace cs with
    | ']' :: rest => ([],some rest)
    | ',' :: rest => if first then ([.missing],none) else item fuel rest
    | rest => if first then item fuel rest else ([],none)

def item : Nat → List Char → List Node × Option (List Char)
  | 0,_ => ([],none)
  | fuel+1,cs =>
    match value fuel cs with
    | (node,none) => ([node],none)
    | (node,some rest) =>
      let (nodes,tail) := items fuel false rest
      (node :: nodes,tail)

def fields : Nat → (first : Bool) → List Char → List (Option String × Node) × Option (List Char)
  | 0,_,_ => ([],none)
  | fuel+1,first,cs =>
    match skipSpace cs with
    | [] => ([],none)
    | c :: rest =>
      if c = Char.ofNat 0x7d then ([],some rest)
      else if first then field fuel (c :: rest)
      else if c = ',' then field fuel rest
      else ([],none)

def field : Nat → List Char → List (Option String × Node) × Option (List Char)
  | 0,_ => ([],none)
  | fuel+1,cs =>
    match skipSpace cs with
    | '"' :: rest =>
      match quotedText (rest.length + 1) rest with
      | none => ([],none)
      | some (key,rest) =>
        match skipSpace rest with
        | ':' :: rest =>
          match value fuel rest with
          | (node,none) => ([(key.key,node)],none)
          | (node,some rest) =>
            let (pairs,tail) := fields fuel false rest
            ((key.key,node) :: pairs,tail)
        | _ => ([(key.key,.missing)],none)
    | _ => ([],none)

end

-- The decisions of JSON. A name that carries nothing has null beside it.
def format : Format where
  spareItems := false
  depthLimit := 127
  countsFirst := false
  emptyContent
    | .null => .ok ()
    | other => .error (other.unlike "unit")
  floatText := Binary64.Style.compact.write

def read (s : String) : Node × Bool :=
  let cs := s.toList
  let (node,tail) := value (3 * cs.length + 3) cs
  (node,match tail with
    | some rest => (skipSpace rest).isEmpty
    | none => false)

def decode {α : Type} (codec : Codec α) (s : String) : Except Fault α :=
  let (node,complete) := read s
  match codec.decode ⟨format,0⟩ node with
  | .error fault => .error fault
  | .ok value => if complete then .ok value else .error .malformed

end Custody.Document.Json
