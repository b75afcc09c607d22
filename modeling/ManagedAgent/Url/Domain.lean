import ManagedAgent.Text.Ranges
import ManagedAgent.Url.Folding
import ManagedAgent.Url.Punycode
import ManagedAgent.Wire.Text

/-!
# Domain names

`Domain.toAscii?` brings a name into the form that is looked up: folded, and each label that is not
ASCII written in Punycode. Characters that are composed of others are taken as they are written, and
the rule for names that run from right to left is not looked at, so that more names pass than may.
-/

set_option autoImplicit false

namespace ManagedAgent.Url.Domain

/-- Characters that are passed over. -/
def ignored : List (Nat × Nat) :=
  [(0xAD, 0xAD), (0x34F, 0x34F), (0x180B, 0x180D), (0x180F, 0x180F), (0x200B, 0x200B),
   (0x2060, 0x2060), (0x2064, 0x2064), (0xFE00, 0xFE0F), (0xFEFF, 0xFEFF), (0xE0100, 0xE01EF)]

/-- ASCII characters that cannot stand in a name. -/
def isForbidden (c : Char) : Bool := c.toNat ≤ 0x20 || c.toNat == 0x7F || "%#/:<>?@[\\]^|".contains c

/-- A character of a name as it is looked up, or none if it cannot stand in a name. -/
def normalChar? (c : Char) : Option (List Char) :=
  if c.toNat < 0x80 then some [c.toLower]
  else if Text.inRanges ignored c.toNat then some []
  else if Text.inRanges Text.unprintable c.toNat then none
  else some ((fold c).map fun c => if c = '\u3002' then '.' else c)

def normal? (name : List Char) : Option (List Char) :=
  (name.mapM normalChar?).map List.flatten

/-- A label can start with this character. -/
def canStart (c : Char) : Bool := !Text.inRanges Text.extending c.toNat

/-- A label beyond ASCII in its normal form. -/
def isLabel (label : List Char) : Bool :=
  normal? label == some label && !label.contains '.' && label.head?.all canStart

/-- The mark of a label that is written in Punycode. -/
def mark : List Char := ['x', 'n', '-', '-']

/-- A label as it is looked up. -/
def labelToAscii? (label : List Char) : Option (List Char) :=
  if label.any (128 ≤ ·.toNat) then
    if isLabel label && !mark.isPrefixOf label then some (mark ++ Punycode.encode label) else none
  else if mark.isPrefixOf label then do
    let text ← Punycode.decode? (label.drop mark.length)
    if isLabel text && text.any (128 ≤ ·.toNat) then some label else none
  else some label

/-- Split at the dots. -/
def labels (name : List Char) : List (List Char) := name.splitOn '.'

/-- A name as it is looked up. -/
def toAscii? (name : List Char) : Option (List Char) := do
  let ascii ← (labels (← normal? name)).mapM labelToAscii?
  let ascii := List.intercalate ['.'] ascii
  if ascii.any isForbidden then none else some ascii

end ManagedAgent.Url.Domain
