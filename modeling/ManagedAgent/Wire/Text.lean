import ManagedAgent.Wire.Reader

/-!
# Texts in quotes

`writeText` escapes byte by byte: only ASCII bytes are ever escaped, so the bytes of all other
characters pass through. `readText` is its inverse and accepts every escape of the format; a lone
surrogate, a control character and bytes that are not UTF-8 are refused. `skipText` passes over a
text whose content is not wanted: it checks the escapes for their form only.
-/

set_option autoImplicit false

namespace ManagedAgent.Wire

/-! ## Writing -/

/-- The hexadecimal digit of a number below sixteen, in lower case. -/
def hexDigit (n : UInt8) : UInt8 := if n < 10 then 0x30 + n else 0x57 + n

/-- One byte of a text as it is written. -/
def escape (b : UInt8) : Bytes :=
  if b == 0x22 then [0x5C, 0x22]
  else if b == 0x5C then [0x5C, 0x5C]
  else if b == 0x08 then [0x5C, 0x62]
  else if b == 0x0C then [0x5C, 0x66]
  else if b == 0x0A then [0x5C, 0x6E]
  else if b == 0x0D then [0x5C, 0x72]
  else if b == 0x09 then [0x5C, 0x74]
  else if b < 0x20 then [0x5C, 0x75, 0x30, 0x30, hexDigit (b / 16), hexDigit (b % 16)]
  else [b]

def utf8 (s : String) : Bytes := s.toByteArray.data.toList

/-- The string of UTF-8 bytes, if they are. -/
def ofUtf8 (b : Bytes) : Option String := String.fromUTF8? ⟨b.toArray⟩

def writeText (s : String) : Bytes := 0x22 :: (utf8 s).flatMap escape ++ [0x22]

/-! ## Escapes -/

/-- The value of a hexadecimal digit of either case. -/
def hexValue? (b : UInt8) : Option Nat :=
  if 0x30 ≤ b && b ≤ 0x39 then some (b.toNat - 0x30)
  else if 0x61 ≤ b && b ≤ 0x66 then some (b.toNat - 0x57)
  else if 0x41 ≤ b && b ≤ 0x46 then some (b.toNat - 0x37)
  else none

def readHex : Reader Nat
  | a :: b :: c :: d :: r =>
    match hexValue? a, hexValue? b, hexValue? c, hexValue? d with
    | some a, some b, some c, some d =>
      .ok (((a * 16 + b) * 16 + c) * 16 + d, ⟨r, by simp; omega⟩)
    | _, _, _, _ => .error .malformed
  | _ => .error .truncated

/-- The next byte, which has to be this one. -/
def expect (b : UInt8) : Reader Unit := do
  if (← Reader.next) == b then pure () else Reader.fail .malformed

/-- The character of a `\u` escape: a leading surrogate needs a trailing one right after it. -/
def readUnicode : Reader Char := do
  let n ← readHex
  if 0xDC00 ≤ n && n ≤ 0xDFFF then Reader.fail .malformed
  else if n < 0xD800 || 0xDBFF < n then pure (Char.ofNat n)
  else
    expect 0x5C
    expect 0x75
    let m ← readHex
    if m < 0xDC00 || 0xDFFF < m then Reader.fail .malformed
    else pure (Char.ofNat ((n - 0xD800) * 0x400 + (m - 0xDC00) + 0x10000))

/-- What the escapes of one letter stand for. -/
def unescape? (b : UInt8) : Option UInt8 :=
  if b == 0x22 || b == 0x5C || b == 0x2F then some b
  else if b == 0x62 then some 0x08
  else if b == 0x66 then some 0x0C
  else if b == 0x6E then some 0x0A
  else if b == 0x72 then some 0x0D
  else if b == 0x74 then some 0x09
  else none

/-- The bytes that an escape stands for, after its backslash. -/
def readEscape : Reader Bytes := do
  let b ← Reader.next
  if b == 0x75 then return String.utf8EncodeChar (← readUnicode)
  else match unescape? b with
    | some c => return [c]
    | none => Reader.fail .malformed

/-- Pass over an escape, after its backslash. -/
def skipEscape : Reader Unit := do
  let b ← Reader.next
  if b == 0x75 then discard readHex
  else if (unescape? b).isSome then pure ()
  else Reader.fail .malformed

/-! ## Reading -/

/-- The bytes of a text up to its closing quote; `before` holds those already read, last first. -/
def readTextFrom (before : Bytes) : Reader Bytes
  | [] => .error .truncated
  | b :: r =>
    if b == 0x22 then .ok (before.reverse, ⟨r, by simp⟩)
    else if b == 0x5C then
      match readEscape r with
      | .error e => .error e
      | .ok (bytes, t) =>
        Reader.widen (Nat.le_succ_of_le t.2) (readTextFrom (bytes.reverse ++ before) t.1)
    else if b < 0x20 then .error .malformed
    else Reader.widen (by simp) (readTextFrom (b :: before) r)
  termination_by s => s.length
  decreasing_by
    · simpa using Nat.lt_succ_of_le t.2
    · simp

/-- A text, after its opening quote. -/
def readText : Reader String := do
  match ofUtf8 (← readTextFrom []) with
  | some s => pure s
  | none => Reader.fail .malformed

/-- Pass over a text, after its opening quote. -/
def skipText : Reader Unit
  | [] => .error .truncated
  | b :: r =>
    if b == 0x22 then .ok ((), ⟨r, by simp⟩)
    else if b == 0x5C then
      match skipEscape r with
      | .error e => .error e
      | .ok (_, t) => Reader.widen (Nat.le_succ_of_le t.2) (skipText t.1)
    else if b < 0x20 then .error .malformed
    else Reader.widen (by simp) (skipText r)
  termination_by s => s.length
  decreasing_by
    · simpa using Nat.lt_succ_of_le t.2
    · simp

end ManagedAgent.Wire
