import Casebook.IdSet
import Casebook.Text.Utf8

namespace Casebook.Store

-- The given number of bytes of a number, the highest first; what is above them is lost.
def bigEndian : Nat → Nat → Bytes
  | 0, _ => []
  | width + 1, number => UInt8.ofNat (number / 256 ^ width) :: bigEndian width number

def ofBigEndian (bytes : Bytes) : Nat := bytes.foldl (fun number byte => 256 * number + byte.toNat) 0

-- Big-endian, so the order of the keys is the order of the ids.
def Key.ofId (id : CaseId) : Bytes := bigEndian 8 id.toNat

def Key.toId? (bytes : Bytes) : Option CaseId :=
  if bytes.length = 8 then some (UInt64.ofNat (ofBigEndian bytes)) else none

-- The length wraps at two bytes, so a name of 65536 bytes or more shares it with a shorter one.
def Key.ofPair (name value : String) : Bytes :=
  let nameBytes := Text.utf8 name
  bigEndian 2 nameBytes.length ++ nameBytes ++ 0 :: Text.utf8 value

def Key.pack (ids : List CaseId) : Bytes := ids.flatMap Key.ofId

-- A partial word at the end is left out.
def Key.unpack : Bytes → List CaseId
  | a :: b :: c :: d :: e :: f :: g :: h :: rest =>
    UInt64.ofNat (ofBigEndian [a, b, c, d, e, f, g, h]) :: Key.unpack rest
  | _ => []

end Casebook.Store
