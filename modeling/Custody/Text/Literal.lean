import Custody.Text.Visible

namespace Custody.Text

def codePointEscape (c : Char) : List Char :=
  ['\\','u',Char.ofNat 0x7b] ++ Nat.toDigits 16 c.toNat ++ [Char.ofNat 0x7d]

def literalChar (quote c : Char) : List Char :=
  if c = Char.ofNat 0 then ['\\','0']
  else if c = '\t' then ['\\','t']
  else if c = '\r' then ['\\','r']
  else if c = '\n' then ['\\','n']
  else if c = quote ∨ c = '\\' then ['\\',c]
  else if isCombining c || isUnprintable c then codePointEscape c
  else [c]

def quoted (s : String) : String :=
  String.ofList (['"'] ++ s.toList.flatMap (literalChar '"') ++ ['"'])

def quotedChar (c : Char) : String :=
  String.ofList (['\''] ++ literalChar '\'' c ++ ['\''])

end Custody.Text
