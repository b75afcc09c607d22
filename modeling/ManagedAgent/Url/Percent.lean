import ManagedAgent.Wire.Text

/-!
# Percent-encoding

A byte that may not stand in a part of an address is written as a percent sign and two hexadecimal
digits.
-/

set_option autoImplicit false

namespace ManagedAgent.Url.Percent

/-- A set of ASCII characters that are to be encoded; all other characters are encoded anyway. -/
abbrev CharSet := Char → Bool

def isControl (c : Char) : Bool := c.toNat < 0x20 || c.toNat == 0x7F

def fragmentSet : CharSet := fun c => isControl c || " \"<>`".contains c

def pathSet : CharSet := fun c => fragmentSet c || "#?\x7b\x7d".contains c

def userSet : CharSet := fun c => pathSet c || "/:;=@[\\]^|".contains c

def querySet : CharSet := fun c => isControl c || " \"#<>'".contains c

/-- The digits of hexadecimal numbers, in upper case. -/
def upperHex (n : Nat) : Char := if n < 10 then Char.ofNat (0x30 + n) else Char.ofNat (0x37 + n)

def encodeByte (b : UInt8) : List Char :=
  ['%', upperHex (b.toNat / 16), upperHex (b.toNat % 16)]

def encodeChar (set : CharSet) (c : Char) : List Char :=
  if c.toNat < 0x80 && !set c then [c]
  else (Wire.utf8 (String.singleton c)).flatMap encodeByte

def encode (set : CharSet) (s : List Char) : String := String.ofList (s.flatMap (encodeChar set))

/-- Undo the encoding. A percent sign without two digits stands for itself. -/
def decode : Bytes → Bytes
  | 0x25 :: a :: b :: r =>
    match Wire.hexValue? a, Wire.hexValue? b with
    | some x, some y => UInt8.ofNat (x * 16 + y) :: decode r
    | _, _ => 0x25 :: decode (a :: b :: r)
  | b :: r => b :: decode r
  | [] => []

end ManagedAgent.Url.Percent
