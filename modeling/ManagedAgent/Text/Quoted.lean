import ManagedAgent.Text.Ranges

/-!
# Blank text and quoted text

`isBlank` says whether nothing but white space is in a text. `quoted` shows a text between quotes:
a character that cannot be seen on its own is shown by its code point.
-/

set_option autoImplicit false

namespace ManagedAgent.Text

def isWhite (c : Char) : Bool := inRanges white c.toNat

/-- Nothing but white space. -/
def isBlank (s : String) : Bool := s.toList.all isWhite

/-- Drop white space at both ends. -/
def trim (s : String) : String :=
  String.ofList ((s.toList.dropWhile isWhite).reverse.dropWhile isWhite).reverse

/-- One character of a quoted text. -/
def quotedChar (c : Char) : List Char :=
  if c = '\x00' then ['\\', '0']
  else if c = '\t' then ['\\', 't']
  else if c = '\r' then ['\\', 'r']
  else if c = '\n' then ['\\', 'n']
  else if c = '"' then ['\\', '"']
  else if c = '\\' then ['\\', '\\']
  else if inRanges extending c.toNat || inRanges unprintable c.toNat then
    '\\' :: 'u' :: '\x7b' :: Nat.toDigits 16 c.toNat ++ ['\x7d']
  else [c]

/-- A text between quotes. -/
def quoted (s : String) : String :=
  String.ofList ('"' :: s.toList.flatMap quotedChar ++ ['"'])

end ManagedAgent.Text
