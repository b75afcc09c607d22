import ManagedAgent.Message.Attribute

/-!
# Hexadecimal text of bytes
-/

set_option autoImplicit false

namespace ManagedAgent.Text

/-- Two digits for a byte, in lower case. -/
def hexByte (b : UInt8) : List Char :=
  [Nat.digitChar (b.toNat / 16), Nat.digitChar (b.toNat % 16)]

def hex (b : Bytes) : String := String.ofList (b.flatMap hexByte)

end ManagedAgent.Text
