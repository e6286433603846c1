import Custody.Text.Hex

namespace Custody

structure Guid where
  bytes : List UInt8
  size : bytes.length = 16
  deriving DecidableEq

namespace Guid

-- Identifiers are ordered byte by byte, which is the order of their written forms.
instance : Ord Guid := ⟨compareOn Guid.bytes⟩

instance : Std.TransOrd Guid := inferInstanceAs (Std.TransCmp (compareOn Guid.bytes))

instance : Std.LawfulEqOrd Guid where
  compare_self {a} := (Std.ReflCmp.compare_self : compare a.bytes a.bytes = .eq)
  eq_of_compare {a b} same := by
    have bytes : a.bytes = b.bytes :=
      Std.LawfulEqCmp.eq_of_compare (show compare a.bytes b.bytes = .eq from same)
    cases a; cases b; cases bytes; rfl

def reserved : Guid := ⟨[0,0,0,0,0,0,0,0,0,0,0,0,0,0,0,1],rfl⟩

def text (g : Guid) : String := Text.hexText g.bytes

inductive Fault where
  | notHex (fault : Text.HexFault)
  | notSixteenBytes
  deriving DecidableEq, Repr

def ofBytes? (bytes : List UInt8) : Option Guid :=
  if size : bytes.length = 16 then some ⟨bytes,size⟩ else none

def parse (s : String) : Except Fault Guid :=
  match Text.readHex s with
  | .error fault => .error (.notHex fault)
  | .ok bytes =>
    match ofBytes? bytes with
    | some g => .ok g
    | none => .error .notSixteenBytes

def Fault.message (s : String) : Fault → String
  | .notHex fault => s!"invalid GUID {s}: {fault.message}"
  | .notSixteenBytes => s!"GUID {s} is not 16 bytes"

end Guid

end Custody
