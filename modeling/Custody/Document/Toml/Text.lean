import Custody.Text.Hex

namespace Custody.Document.Toml

def isBlank (c : Char) : Bool := c = ' ' || c = '\t'

def skipBlank (cs : List Char) : List Char := cs.dropWhile isBlank

def isVisible (c : Char) : Bool := c = '\t' || (0x20 ≤ c.toNat && c.toNat ≠ 0x7f)

def newline? : List Char → Option (List Char)
  | '\n' :: rest => some rest
  | '\r' :: '\n' :: rest => some rest
  | _ => none

def skipComment : List Char → List Char
  | '#' :: rest => rest.dropWhile isVisible
  | cs => cs

def endOfLine? (cs : List Char) : Option (List Char) :=
  match skipComment (skipBlank cs) with
  | [] => some []
  | cs => newline? cs

def skipLines : Nat → List Char → List Char
  | 0,cs => cs
  | fuel+1,cs =>
    match skipBlank cs with
    | '#' :: rest =>
      match newline? (skipComment ('#' :: rest)) with
      | some rest => skipLines fuel rest
      | none => '#' :: rest
    | cs =>
      match newline? cs with
      | some rest => skipLines fuel rest
      | none => cs

def codePoint? : Nat → Nat → List Char → Option (Char × List Char)
  | 0,point,rest => if point.isValidChar then some (Char.ofNat point,rest) else none
  | _+1,_,[] => none
  | count+1,point,c :: rest => do
    let digit ← Text.hexValue? c
    codePoint? count (16 * point + digit) rest

def escape? : List Char → Option (Char × List Char)
  | 'b' :: rest => some (Char.ofNat 0x8,rest)
  | 't' :: rest => some ('\t',rest)
  | 'n' :: rest => some ('\n',rest)
  | 'f' :: rest => some (Char.ofNat 0xc,rest)
  | 'r' :: rest => some ('\r',rest)
  | '"' :: rest => some ('"',rest)
  | '\\' :: rest => some ('\\',rest)
  | 'u' :: rest => codePoint? 4 0 rest
  | 'U' :: rest => codePoint? 8 0 rest
  | _ => none

def basicText : Nat → List Char → Option (List Char × List Char)
  | 0,_ => none
  | fuel+1,cs =>
    match cs with
    | [] => none
    | '"' :: rest => some ([],rest)
    | '\\' :: rest => do
      let (c,rest) ← escape? rest
      let (body,rest) ← basicText fuel rest
      some (c :: body,rest)
    | c :: rest =>
      if isVisible c then do
        let (body,rest) ← basicText fuel rest
        some (c :: body,rest)
      else none

def literalText (cs : List Char) : Option (List Char × List Char) :=
  let body := cs.takeWhile fun c => c ≠ '\'' && isVisible c
  match cs.dropWhile fun c => c ≠ '\'' && isVisible c with
  | '\'' :: rest => some (body,rest)
  | _ => none

def skipSpace : Nat → List Char → List Char
  | 0,cs => cs
  | fuel+1,cs =>
    match newline? (skipBlank cs) with
    | some rest => skipSpace fuel rest
    | none => skipBlank cs

def joinedLine? (cs : List Char) : Option (List Char) :=
  (newline? (skipBlank cs)).map fun rest => skipSpace (rest.length + 1) rest

-- The end of a text of several lines: three quotes, with at most two more of its own before.
def closing? (quote : Char) (cs : List Char) : Option (List Char × List Char) :=
  let quotes := cs.takeWhile (· = quote)
  if quotes.length < 3 then none
  else
    let own := min 2 (quotes.length - 3)
    some (List.replicate own quote,cs.drop (own + 3))

def longText (quote : Char) : Nat → List Char → Option (List Char × List Char)
  | 0,_ => none
  | fuel+1,cs =>
    match cs with
    | [] => none
    | c :: rest =>
      match newline? (c :: rest) with
      | some rest => do
        let (body,rest) ← longText quote fuel rest
        some ('\n' :: body,rest)
      | none =>
        if c = quote then
          match closing? quote (c :: rest) with
          | some found => some found
          | none => do
            let (body,rest) ← longText quote fuel rest
            some (c :: body,rest)
        else if c = '\\' ∧ quote = '"' then
          match joinedLine? rest with
          | some rest => longText quote fuel rest
          | none => do
            let (c,rest) ← escape? rest
            let (body,rest) ← longText quote fuel rest
            some (c :: body,rest)
        else if isVisible c then do
          let (body,rest) ← longText quote fuel rest
          some (c :: body,rest)
        else none

-- The body of a text of several lines. An end of line right behind the opening quotes is none of
-- the text.
def longBody (quote : Char) (cs : List Char) : Option (List Char × List Char) :=
  longText quote (cs.length + 1) ((newline? cs).getD cs)

def text? (cs : List Char) : Option (String × List Char) :=
  let found := match cs with
    | '"' :: '"' :: '"' :: rest => longBody '"' rest
    | '\'' :: '\'' :: '\'' :: rest => longBody '\'' rest
    | '"' :: rest => basicText (rest.length + 1) rest
    | '\'' :: rest => literalText rest
    | _ => none
  found.map fun (body,rest) => (String.ofList body,rest)

def isKeyChar (c : Char) : Bool :=
  c.isAlphanum || c = '_' || c = '-'

def keyPart? (cs : List Char) : Option (String × List Char) :=
  let found := match cs with
    | '"' :: rest => basicText (rest.length + 1) rest
    | '\'' :: rest => literalText rest
    | cs =>
      let body := cs.takeWhile isKeyChar
      if body.isEmpty then none else some (body,cs.dropWhile isKeyChar)
  found.map fun (body,rest) => (String.ofList body,rest)

def keyParts : Nat → List Char → Option (List String × List Char)
  | 0,_ => none
  | fuel+1,cs => do
    let (part,rest) ← keyPart? (skipBlank cs)
    match skipBlank rest with
    | '.' :: rest =>
      let (parts,rest) ← keyParts fuel rest
      some (part :: parts,rest)
    | rest => some ([part],rest)

def nestingLimit : Nat := 80

def key? (cs : List Char) : Option (List String × List Char) := do
  let (parts,rest) ← keyParts (cs.length + 1) cs
  if parts.length < nestingLimit then some (parts,rest) else none

end Custody.Document.Toml
