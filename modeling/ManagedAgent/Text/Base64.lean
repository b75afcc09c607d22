import ManagedAgent.Message.Attribute

/-!
# Base64

Three bytes are written as four digits of six bits each. Equal signs fill a last group that is short
of bytes.
-/

set_option autoImplicit false

namespace ManagedAgent.Text

/-- The sixty-four digits. -/
def base64Digit (n : Nat) : Char :=
  if n < 26 then Char.ofNat (0x41 + n)
  else if n < 52 then Char.ofNat (0x47 + n)
  else if n < 62 then Char.ofNat (n - 4)
  else if n = 62 then '+'
  else '/'

/-- The digits of a group of three bytes. -/
def base64Group (a b c : UInt8) : List Char :=
  let n := (a.toNat * 256 + b.toNat) * 256 + c.toNat
  [n / 0x40000, n / 0x1000 % 64, n / 64 % 64, n % 64].map base64Digit

def base64 : Bytes → List Char
  | a :: b :: c :: r => base64Group a b c ++ base64 r
  | [a, b] => (base64Group a b 0).take 3 ++ ['=']
  | [a] => (base64Group a 0 0).take 2 ++ ['=', '=']
  | [] => []

end ManagedAgent.Text
