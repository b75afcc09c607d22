import ManagedAgent.Error
import ManagedAgent.Gzip.Member
import ManagedAgent.Wire.Format

/-!
# Bodies: messages as they travel

A body is the text of a message, compressed if wanted. An empty body is no instruction.
-/

set_option autoImplicit false

namespace ManagedAgent.Wire.Body

def contentType : String := "application/json"

/-- How a compressed body is encoded. -/
def compressedEncoding : String := "gzip"

/-- The body of a message. -/
def encode {α : Type} (c : Codec α) (compressed : Bool) (a : α) : Bytes :=
  if compressed then Gzip.compress (c.write a) else c.write a

def text (compressed : Bool) (body : Bytes) : Except TransportError Bytes :=
  if compressed then (Gzip.decompress body).mapError fun e => .compression e.message else .ok body

/-- The message of a body. -/
def decode {α : Type} (c : Codec α) (compressed : Bool) (body : Bytes) : Except TransportError α := do
  let text ← text compressed body
  (c.decode text).mapError .decode

/-- The instruction of a body, if it has one. -/
def decodeInstruction (compressed : Bool) (body : Bytes) :
    Except TransportError (Option Instruction) :=
  if body.isEmpty then .ok none else some <$> decode Codec.instruction compressed body

end ManagedAgent.Wire.Body
