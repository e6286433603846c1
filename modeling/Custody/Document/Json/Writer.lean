import Custody.Document.Node
import Custody.Number.Shortest

namespace Custody.Document.Json

def escapedChar (c : Char) : List Char :=
  if c = '"' then ['\\','"']
  else if c = '\\' then ['\\','\\']
  else if c = '\n' then ['\\','n']
  else if c = '\r' then ['\\','r']
  else if c = '\t' then ['\\','t']
  else if c = Char.ofNat 0x8 then ['\\','b']
  else if c = Char.ofNat 0xc then ['\\','f']
  else if c.toNat < 0x20 then
    ['\\','u','0','0'] ++ [if c.toNat < 0x10 then '0' else '1'] ++ Nat.toDigits 16 (c.toNat % 16)
  else [c]

def literal (s : String) : String :=
  String.ofList (['"'] ++ s.toList.flatMap escapedChar ++ ['"'])

def scalar : Node → String
  | .boolean value => if value then "true" else "false"
  | .integer value => toString value
  | .float value => Binary64.Style.compact.write value
  | .text value | .moment value => literal value
  | _ => "null"

def fieldName (key : Option String) : String := literal (key.getD "")

mutual

def compact : Node → String
  | .list items _ => "[" ++ ",".intercalate (compactItems items) ++ "]"
  | .table fields _ => "\x7b" ++ ",".intercalate (compactFields fields) ++ "\x7d"
  | node => scalar node

def compactItems : List Node → List String
  | [] => []
  | node :: rest => compact node :: compactItems rest

def compactFields : List (Option String × Node) → List String
  | [] => []
  | (key,node) :: rest => (fieldName key ++ ":" ++ compact node) :: compactFields rest

end

def block (opening closing : String) (indent : Nat) (lines : List String) : String :=
  if lines.isEmpty then opening ++ closing
  else
    let margin := String.ofList (List.replicate (2 * indent) ' ')
    let inner := lines.map fun line => margin ++ "  " ++ line
    opening ++ "\n" ++ ",\n".intercalate inner ++ "\n" ++ margin ++ closing

mutual

def pretty (indent : Nat) : Node → String
  | .list items _ => block "[" "]" indent (prettyItems (indent + 1) items)
  | .table fields _ => block "\x7b" "\x7d" indent (prettyFields (indent + 1) fields)
  | node => scalar node

def prettyItems (indent : Nat) : List Node → List String
  | [] => []
  | node :: rest => pretty indent node :: prettyItems indent rest

def prettyFields (indent : Nat) : List (Option String × Node) → List String
  | [] => []
  | (key,node) :: rest => (fieldName key ++ ": " ++ pretty indent node) :: prettyFields indent rest

end

end Custody.Document.Json
