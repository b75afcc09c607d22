import ManagedAgent.Wire.Codec

/-!
# Records

A `Record σ β` lists the fields of a record type `σ` and says how a `β` is built from their values.
While a record is read, its `Draft` holds the values met so far, one place per field, so that the
order of the members does not matter; a second value for one field is refused at its key.

A record is written as an object with its fields in order. It is read from an object, or from a
list of its fields' values in order.
-/

set_option autoImplicit false

namespace ManagedAgent.Wire

/-- A field of a record type `σ` with values in `α`. -/
structure Field (σ α : Type) where
  name : String
  get : σ → α
  codec : Codec α
  /-- The value that a missing member stands for; without one the member is required. -/
  absent : Option α
  /-- Whether a value is left out of the written form. -/
  omits : α → Bool

namespace Field
variable {σ α : Type}

/-- A member that has to be there. -/
def required (name : String) (get : σ → α) (codec : Codec α) : Field σ α :=
  { name, get, codec, absent := none, omits := fun _ => false }

/-- A member that is always written and may be missing. -/
def defaulted (name : String) (get : σ → α) (codec : Codec α) (value : α) : Field σ α :=
  { name, get, codec, absent := some value, omits := fun _ => false }

/-- A member that is left out when it has its default value. -/
def sparse [DecidableEq α] (name : String) (get : σ → α) (codec : Codec α) (value : α) :
    Field σ α :=
  { name, get, codec, absent := some value, omits := fun a => decide (a = value) }

/-- A member that is left out when there is none. -/
def optional (name : String) (get : σ → Option α) (codec : Codec α) : Field σ (Option α) :=
  { name, get, codec := codec.optional, absent := some none, omits := (·.isNone) }

end Field

/-- The fields of `σ`, in order, and how to build a `β` from their values. -/
inductive Record (σ : Type) : Type → Type 1 where
  | build {β : Type} (b : β) : Record σ β
  | field {α β : Type} (front : Record σ (α → β)) (last : Field σ α) : Record σ β

namespace Record
variable {σ : Type}

/-- The start of a list of fields of `σ`. -/
def of {β : Type} (σ : Type) (b : β) : Record σ β := .build b

/-- The values read so far: a place for every field. -/
def Draft : {β : Type} → Record σ β → Type
  | _, .build _ => Unit
  | _, .field (α := α) front _ => front.Draft × Option α

def blank : {β : Type} → (r : Record σ β) → r.Draft
  | _, .build _ => ()
  | _, .field front _ => (front.blank, none)

/-- The record of a draft, unless a required field has no value. -/
def finish : {β : Type} → (r : Record σ β) → r.Draft → Option β
  | _, .build b, _ => some b
  | _, .field front last, draft =>
    match front.finish draft.1, draft.2 <|> last.absent with
    | some f, some a => some (f a)
    | _, _ => none

/-- The members that a record is written with. -/
def members : {β : Type} → Record σ β → σ → List (String × Bytes)
  | _, .build _, _ => []
  | _, .field front last, v =>
    let a := last.get v
    front.members v ++ if last.omits a then [] else [(last.name, last.codec.write a)]

/-- The value that the fields of `v` build. -/
def rebuild : {β : Type} → Record σ β → σ → β
  | _, .build b, _ => b
  | _, .field front last, v => front.rebuild v (last.get v)

/-- Read the value of a member into its place. `other` reads what follows an unknown key. -/
def readMember (depth : Nat) (other : Reader Unit) (key : String) :
    {β : Type} → (r : Record σ β) → r.Draft → Reader r.Draft
  | _, .build _, _ => other
  | _, .field front last, draft =>
    if key = last.name then
      if draft.2.isSome then Reader.fail .mismatch
      else do
        expectToken 0x3A
        let a ← last.codec.read (depth + 1)
        return (draft.1, some a)
    else do
      let first ← front.readMember depth other key draft.1
      return (first, draft.2)

/-- Read the values of the fields in order, as far as the list goes. The answer says also whether
none was read. -/
def readElements (depth : Nat) : {β : Type} → (r : Record σ β) → Reader (r.Draft × Bool)
  | _, .build _ => pure ((), true)
  | _, .field front last => do
    let (draft, isFirst) ← front.readElements depth
    if ← hasElement isFirst then return ((draft, some (← last.codec.read (depth + 1))), false)
    else return ((draft, none), isFirst)

end Record

/-- What to do with a key that no field has. -/
inductive Unknown where
  | skipped
  | refused

def Unknown.read : Unknown → Reader Unit
  | .skipped => do
    expectToken 0x3A
    skipValue
  | .refused => Reader.fail .mismatch

namespace Codec
variable {σ β : Type}

/-- A record whose values are those built ones that pass `check`. -/
def checkedRecord (unknown : Unknown) (r : Record σ β) (check : β → Option σ) : Codec σ where
  write v := writeObject (r.members v)
  read depth := do
    let b ← Reader.peekToken
    if b == some 0x5B then
      enter depth
      let (draft, _) ← r.readElements depth
      let v ← Reader.orMismatch ((r.finish draft).bind check)
      closeList
      return v
    else if b == some 0x7B then
      enter depth
      let draft ← readObject (fun key draft => r.readMember depth unknown.read key draft) r.blank
      Reader.orMismatch ((r.finish draft).bind check)
    else refuse

def record (r : Record σ σ) : Codec σ := checkedRecord .skipped r some

end Codec

end ManagedAgent.Wire
