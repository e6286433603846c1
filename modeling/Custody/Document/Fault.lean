import Custody.Document.Node
import Custody.Text.Literal

namespace Custody.Document

inductive Found where
  | null
  | boolean (value : Bool)
  | integer (value : Int)
  | float (value : Binary64)
  | text (value : String)
  | sequence
  | map
  deriving DecidableEq, Repr

inductive Mismatch where
  | wrongKind (found : Found) (expected : String)
  | outOfRange (value : Int) (expected : String)
  | wrongLength (length : Nat) (expected : String)
  | missingField (name : String)
  | duplicateField (name : String)
  | unknownVariant (name : String) (known : List String)
  | refused (text : String)
  deriving DecidableEq, Repr

inductive Fault where
  -- The text is not well formed, or is wrong in a way that has no wording of its own.
  | malformed
  | mismatch (mismatch : Mismatch)
  deriving DecidableEq, Repr

def Node.found? : Node → Option Found
  | .null => some .null
  | .boolean value => some (.boolean value)
  | .integer value => some (.integer value)
  | .float value => some (.float value)
  | .text value => some (.text value)
  | .moment _ => some .map
  | .list _ _ => some .sequence
  | .table _ _ => some .map
  | .unreadable | .missing => none

def Node.unlike (node : Node) (expected : String) : Fault :=
  match node.found? with
  | none => .malformed
  | some found => .mismatch (.wrongKind found expected)

def Found.describe (floatText : Binary64 → String) : Found → String
  | null => "null"
  | boolean value => "boolean `" ++ toString value ++ "`"
  | integer value => "integer `" ++ toString value ++ "`"
  | float value => "floating point `" ++ floatText value ++ "`"
  | text value => "string " ++ Text.quoted value
  | sequence => "sequence"
  | map => "map"

def Mismatch.message (floatText : Binary64 → String) : Mismatch → String
  | wrongKind found expected =>
    "invalid type: " ++ found.describe floatText ++ ", expected " ++ expected
  | outOfRange value expected =>
    "invalid value: integer `" ++ toString value ++ "`, expected " ++ expected
  | wrongLength length expected =>
    "invalid length " ++ toString length ++ ", expected " ++ expected
  | missingField name => "missing field `" ++ name ++ "`"
  | duplicateField name => "duplicate field `" ++ name ++ "`"
  | unknownVariant name known =>
    "unknown variant `" ++ name ++ "`, expected one of "
      ++ ", ".intercalate (known.map fun other => "`" ++ other ++ "`")
  | refused text => text

end Custody.Document
