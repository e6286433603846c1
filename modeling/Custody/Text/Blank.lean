-- Blank characters: those with the White_Space property of Unicode.

namespace Custody.Text

def isBlank (c : Char) : Bool :=
  let n := c.toNat
  (0x9 ≤ n && n ≤ 0xd) || n == 0x20 || n == 0x85 || n == 0xa0 || n == 0x1680
    || (0x2000 ≤ n && n ≤ 0x200a) || n == 0x2028 || n == 0x2029 || n == 0x202f
    || n == 0x205f || n == 0x3000

def allBlank (s : String) : Bool := s.toList.all isBlank

def dropTrailingBlank (cs : List Char) : List Char := (cs.reverse.dropWhile isBlank).reverse

def trimEnd (s : String) : String := String.ofList (dropTrailingBlank s.toList)

theorem dropTrailingBlank_append (cs : List Char) (c : Char) (visible : isBlank c = false) :
    dropTrailingBlank (cs ++ [c]) = cs ++ [c] := by
  simp [dropTrailingBlank,visible]

theorem dropTrailingBlank_blank (cs : List Char) (c : Char) (blank : isBlank c) :
    dropTrailingBlank (cs ++ [c]) = dropTrailingBlank cs := by
  simp [dropTrailingBlank,blank]

end Custody.Text
