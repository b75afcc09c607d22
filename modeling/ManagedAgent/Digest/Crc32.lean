import ManagedAgent.Message.Attribute

/-!
# CRC-32

The remainder of the message, as a polynomial over two elements, by the reflected polynomial
`0xEDB88320`.
-/

set_option autoImplicit false

namespace ManagedAgent.Crc32

/-- Divide out one bit. -/
def shiftBit (r : UInt32) : UInt32 :=
  if r &&& 1 = 1 then (r >>> 1) ^^^ 0xEDB88320 else r >>> 1

/-- Take one more byte in. -/
def step (r : UInt32) (b : UInt8) : UInt32 :=
  Nat.repeat shiftBit 8 (r ^^^ b.toUInt32)

def checksum (message : Bytes) : UInt32 := ~~~ message.foldl step 0xFFFFFFFF

end ManagedAgent.Crc32
