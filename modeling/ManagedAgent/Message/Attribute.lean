import ManagedAgent.Decimal.Double

/-!
# Attributes that describe an agent
-/

set_option autoImplicit false

namespace ManagedAgent

/-- Byte strings: bodies, hashes, keys. -/
abbrev Bytes := List UInt8

/-- A typed attribute value. -/
inductive AttributeValue where
  | string (s : String)
  | int (i : Int64)
  | double (d : Double)
  | bool (b : Bool)
  | bytes (b : Bytes)
  deriving DecidableEq

instance : Inhabited AttributeValue := ⟨.string ""⟩

/-- Every double in the value is a number. -/
def AttributeValue.IsFinite : AttributeValue → Prop
  | .double d => d.isFinite
  | _ => True

namespace AttributeValue

def doubles : AttributeValue → List Double
  | .double d => [d]
  | _ => []

def mapDoubles (f : Double → Double) : AttributeValue → AttributeValue
  | .double d => .double (f d)
  | v => v

end AttributeValue

structure Attribute where
  key : String
  value : AttributeValue
  deriving DecidableEq, Inhabited

def Attribute.mapDoubles (f : Double → Double) (a : Attribute) : Attribute :=
  { a with value := a.value.mapDoubles f }

/-- What an agent says about itself: attributes that identify it, and further ones. -/
structure Description where
  identifying : List Attribute := []
  nonIdentifying : List Attribute := []
  deriving DecidableEq, Inhabited

namespace Description

def isEmpty (d : Description) : Bool := d.identifying.isEmpty && d.nonIdentifying.isEmpty

def IsFinite (d : Description) : Prop :=
  (∀ a ∈ d.identifying, a.value.IsFinite) ∧ ∀ a ∈ d.nonIdentifying, a.value.IsFinite

def doubles (d : Description) : List Double :=
  d.identifying.flatMap (·.value.doubles) ++ d.nonIdentifying.flatMap (·.value.doubles)

def mapDoubles (f : Double → Double) (d : Description) : Description :=
  { identifying := d.identifying.map (·.mapDoubles f)
    nonIdentifying := d.nonIdentifying.map (·.mapDoubles f) }

end Description

end ManagedAgent
