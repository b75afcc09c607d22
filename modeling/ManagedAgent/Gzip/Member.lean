import ManagedAgent.Digest.Crc32
import ManagedAgent.Gzip.Block

/-!
# The container of compressed data

A member is a header, compressed data, and a trailer with the checksum and the length of the text.
`decompress` reads the first member and ignores what follows it.
-/

set_option autoImplicit false

namespace ManagedAgent.Gzip

/-- A number as this many bytes, the least significant one first. -/
def littleEndian : (count : Nat) → Nat → Bytes
  | 0, _ => []
  | count + 1, n => UInt8.ofNat n :: littleEndian count (n / 256)

def ofLittleEndian : Bytes → Nat
  | [] => 0
  | b :: r => b.toNat + 256 * ofLittleEndian r

abbrev ByteReader (α : Type) : Type := Reader Failure UInt8 α

namespace ByteReader

/-- That many bytes of the container. -/
def bytes : (count : Nat) → ByteReader Bytes
  | 0 => pure []
  | count + 1 => do
    let b ← Reader.nextOr .unexpectedEnd
    return b :: (← bytes count)

/-- A number of this many bytes. -/
def number (count : Nat) : ByteReader Nat := do return ofLittleEndian (← bytes count)

/-- The longest text in a header. -/
def maxField : Nat := 0xFFFF

/-- A text up to the zero that ends it. -/
def zeroTerminated : ByteReader Unit := do
  let field ← Reader.takeWhile (· ≠ 0)
  if maxField < field.length then Reader.fail .fieldTooLong
  else
    let _ ← Reader.nextOr .unexpectedEnd
    return ()

/-- The bit of a set of flags. -/
def hasFlag (flags : UInt8) (bit : UInt8) : Bool := flags &&& bit ≠ 0

/-- The first ten bytes; the answer is the flags. -/
def fixedHeader : ByteReader UInt8 := do
  match ← bytes 10 with
  | id₁ :: id₂ :: method :: flags :: _ =>
    if id₁ = 0x1F ∧ id₂ = 0x8B ∧ method = 8 ∧ !hasFlag flags 0xE0 then return flags
    else Reader.fail .invalidHeader
  | _ => Reader.fail .invalidHeader

/-- Skip a field that is there if `isThere`. -/
def optionalField (isThere : Bool) (field : ByteReader Unit) : ByteReader Unit :=
  if isThere then field else pure ()

/-- A field that gives its length first. -/
def extraField : ByteReader Unit := do
  let _ ← bytes (← number 2)
  return ()

/-- The header up to its checksum; the answer says whether there is one. -/
def headerFields : ByteReader Bool := do
  let flags ← fixedHeader
  optionalField (hasFlag flags 0x04) extraField
  optionalField (hasFlag flags 0x08) zeroTerminated
  optionalField (hasFlag flags 0x10) zeroTerminated
  return hasFlag flags 0x02

/-- The header; its checksum is that of the bytes before. -/
def header : ByteReader Unit := fun s =>
  match headerFields s with
  | .error e => .error e
  | .ok (false, r) => .ok ((), r)
  | .ok (true, r) =>
    let checksum := Crc32.checksum (s.take (s.length - r.1.length))
    Reader.widen r.2 <| (do
      if (← number 2) = checksum.toNat % UInt16.size then return ()
      else Reader.fail .checksum : ByteReader Unit) r.1

/-- The trailer of a text. -/
def trailer (text : Bytes) : ByteReader Unit := do
  let checksum ← number 4
  let length ← number 4
  if checksum = (Crc32.checksum text).toNat ∧ length = text.length % UInt32.size then return ()
  else Reader.fail .checksum

end ByteReader

/-- The text of the first member. -/
def decompress (data : Bytes) : Except Failure Bytes := do
  let (_, data) ← Reader.run ByteReader.header data
  let (text, data) ← inflate data
  let _ ← Reader.run (ByteReader.trailer text) data
  return text

/-- A header without a name, a time or a system. -/
def plainHeader : Bytes := [0x1F, 0x8B, 8, 0, 0, 0, 0, 0, 0, 0xFF]

/-- A text as one member. -/
def compress (text : Bytes) : Bytes :=
  plainHeader ++ deflate text ++ littleEndian 4 (Crc32.checksum text).toNat
    ++ littleEndian 4 (text.length % UInt32.size)

end ManagedAgent.Gzip
