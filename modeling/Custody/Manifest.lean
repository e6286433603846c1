import Custody.Application
import Custody.Hash.Sha256
import Custody.Text.Hex

namespace Custody

structure Manifest where
  bytes : List UInt8
  deriving DecidableEq, Inhabited

namespace Manifest

def ofText (s : String) : Manifest := ⟨s.toUTF8.toList⟩

def digest (manifest : Manifest) : String := Text.hexText (Hash.Sha256.digest manifest.bytes)

end Manifest

structure TrustList where
  acceptAll : Bool
  digests : List String

namespace TrustList

def everything : TrustList := ⟨true,[]⟩

def accepts (trust : TrustList) (manifest : Manifest) : Bool :=
  trust.acceptAll || (trust.digests.map String.toLower).contains manifest.digest

end TrustList

end Custody
