/-!
# Texts in ASCII: letters of either case, and decimal numbers
-/

set_option autoImplicit false

namespace ManagedAgent.Text

/-- The text with small letters for capital ones; other characters than those of ASCII stay. -/
def lower (s : String) : String := String.ofList (s.toList.map Char.toLower)

/-- Texts equal but for the case of ASCII letters. -/
def equalsIgnoringCase (a b : String) : Bool := lower a == lower b

/-- The number of a text of decimal digits below `2 ^ 64`; a plus sign may come before it. -/
def decimalUInt64? (s : String) : Option UInt64 :=
  let digits := match s.toList with
    | '+' :: rest => rest
    | cs => cs
  if digits.isEmpty || !digits.all Char.isDigit then none
  else
    let n := digits.foldl (fun n c => n * 10 + (c.toNat - '0'.toNat)) 0
    if n < UInt64.size then some (UInt64.ofNat n) else none

end ManagedAgent.Text
