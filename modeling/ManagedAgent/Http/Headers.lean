import ManagedAgent.Error
import ManagedAgent.NameMap
import ManagedAgent.Text.Ascii
import ManagedAgent.Wire.Text

/-!
# Headers of requests

Names are compared without regard to case and kept in lower case. `Headers.ofSettings` checks the
headers that settings ask for, in the order of their names.
-/

set_option autoImplicit false

namespace ManagedAgent.Http

/-- Headers by name in lower case. -/
abbrev Headers := NameMap String

namespace Headers

/-- A character of a header's name. -/
def isToken (c : Char) : Bool := c.isAlphanum || "!#$%&'*+-.^_`|~".contains c

/-- No name is longer. -/
def maxName : Nat := 0xFFFF

def isName (s : String) : Bool :=
  s.toList.all isToken && 0 < s.length && s.length ≤ maxName

/-- A byte of a header's value: controls other than the tab are refused. -/
def isValueByte (b : UInt8) : Bool := b == 0x09 || (0x20 ≤ b && b ≠ 0x7F)

def isValue (s : String) : Bool := (Wire.utf8 s).all isValueByte

/-- Add a header if it is valid; one of the same name is replaced. -/
def add (headers : Headers) (name value : String) : Except TransportError Headers :=
  if !isName name then .error (.invalidHeader (name ++ ": invalid HTTP header name"))
  else
    let name := Text.lower name
    if !isValue value then .error (.invalidHeader (name ++ ": failed to parse header value"))
    else .ok (headers.insert name value)

/-- The headers that settings ask for. Of two names that differ in case only the later one
counts. -/
def ofSettings (wanted : NameMap String) : Except TransportError Headers :=
  wanted.entries.foldlM (fun headers e => headers.add e.1 e.2) .empty

end Headers

end ManagedAgent.Http
