import ManagedAgent.Wire.Number
import ManagedAgent.Wire.Text

/-!
# Values: scalars, lists and objects

`readList` and `readObject` walk over a container and leave its content to a reader of their
caller. `skipValue` passes over any value, however deeply nested, and checks its form only.
`readBuffered` keeps a value whose type is not known yet; it opens no more containers than it has
room for.
-/

set_option autoImplicit false

namespace ManagedAgent.Wire

/-! ## Scalars -/

/-- A value that is no container. -/
inductive Scalar where
  | null
  | bool (b : Bool)
  | number (n : Number)
  | text (s : String)
  deriving DecidableEq, Inhabited

/-- The bytes that complete a literal. -/
def readLiteral : Bytes → Reader Unit
  | [] => pure ()
  | b :: rest => do
    expect b
    readLiteral rest

def readScalar : Reader Scalar := do
  match ← Reader.peek with
  | none => Reader.fail .truncated
  | some b =>
    if b == 0x6E then
      Reader.advance
      readLiteral [0x75, 0x6C, 0x6C]
      return .null
    else if b == 0x74 then
      Reader.advance
      readLiteral [0x72, 0x75, 0x65]
      return .bool true
    else if b == 0x66 then
      Reader.advance
      readLiteral [0x61, 0x6C, 0x73, 0x65]
      return .bool false
    else if b == 0x22 then
      Reader.advance
      return .text (← readText)
    else if b == 0x2D || isDigit b then return .number (← readNumber)
    else Reader.fail .malformed

/-- A scalar of one type. A container is refused at its first byte, a scalar of another type after
its last one. -/
def readAs {α : Type} (project : Scalar → Option α) : Reader α := do
  let b ← Reader.peekToken
  if b == some 0x5B || b == some 0x7B then Reader.fail .mismatch
  else Reader.orMismatch (project (← readScalar))

/-- Refuse the next value, which is of another type. -/
def refuse {α : Type} : Reader α := readAs fun _ => none

/-! ## Lists and objects -/

/-- After an element of a list: the end, or a comma and another element. The elements read so far
are held last first. -/
def readListStep {α : Type} (item : Reader α) (before : List α) (b : UInt8) :
    Reader (List α ⊕ List α) := do
  if b == 0x5D then return .inr before.reverse
  else if b == 0x2C then
    match ← Reader.peekToken with
    | none => Reader.fail .truncated
    | some c => if c == 0x5D then Reader.fail .malformed else return .inl ((← item) :: before)
  else Reader.fail .malformed

/-- The elements of a list, after its opening bracket. -/
def readList {α : Type} (item : Reader α) : Reader (List α) := do
  match ← Reader.peekToken with
  | none => Reader.fail .truncated
  | some b =>
    if b == 0x5D then
      Reader.advance
      return []
    else
      let a ← item
      Reader.loop (readListStep item) [a]

/-- Whether a list goes on with another element; its closing bracket is left in place. -/
def hasElement (isFirst : Bool) : Reader Bool := do
  match ← Reader.peekToken with
  | none => Reader.fail .truncated
  | some b =>
    if b == 0x5D then return false
    else if isFirst then return true
    else if b == 0x2C then
      Reader.advance
      match ← Reader.peekToken with
      | none => Reader.fail .truncated
      | some c => if c == 0x5D then Reader.fail .malformed else return true
    else Reader.fail .malformed

def closeList : Reader Unit := do
  match ← Reader.peekToken with
  | none => Reader.fail .truncated
  | some b => if b == 0x5D then Reader.advance else Reader.fail .malformed

/-- The next byte that is not blank, which has to be this one. -/
def expectToken (b : UInt8) : Reader Unit := do
  discard Reader.peekToken
  expect b

/-- One member of an object, after the opening quote of its key. `member` reads what follows the
key, from the colon on. -/
def readMember {δ : Type} (member : String → δ → Reader δ) (draft : δ) : Reader δ := do
  let key ← readText
  member key draft

/-- After a member of an object: the end, or a comma and another member. -/
def readObjectStep {δ : Type} (member : String → δ → Reader δ) (draft : δ) (b : UInt8) :
    Reader (δ ⊕ δ) := do
  if b == 0x7D then return .inr draft
  else if b == 0x2C then
    match ← Reader.peekToken with
    | none => Reader.fail .truncated
    | some c =>
      if c == 0x22 then
        Reader.advance
        return .inl (← readMember member draft)
      else Reader.fail .malformed
  else Reader.fail .malformed

/-- The members of an object, after its opening bracket and up to its closing one. -/
def readObject {δ : Type} (member : String → δ → Reader δ) (draft : δ) : Reader δ := do
  match ← Reader.peekToken with
  | none => Reader.fail .truncated
  | some b =>
    Reader.advance
    if b == 0x7D then return draft
    else if b == 0x22 then
      let draft ← readMember member draft
      Reader.loop (readObjectStep member) draft
    else Reader.fail .malformed

/-! ## Passing over -/

/-- Pass over a scalar, after its first byte. -/
def skipScalar (b : UInt8) : Reader Unit :=
  if b == 0x6E then readLiteral [0x75, 0x6C, 0x6C]
  else if b == 0x74 then readLiteral [0x72, 0x75, 0x65]
  else if b == 0x66 then readLiteral [0x61, 0x6C, 0x73, 0x65]
  else if b == 0x22 then skipText
  else if b == 0x2D || isDigit b then skipNumber b
  else Reader.fail .malformed

/-- A container that is open while its content is passed over. -/
inductive Container where
  | list
  | object
  deriving DecidableEq

/-- What is to come next while a value is passed over. -/
inductive Expected where
  | value
  | firstElement
  | firstMember
  | member
  | separator
  deriving DecidableEq

/-- Where the passing over of a value stands: the open containers, the innermost one first, and
what is to come next in it. -/
structure Skipping where
  frames : List Container
  expected : Expected

/-- A value has ended inside the open containers. -/
def Skipping.ended (frames : List Container) : Skipping ⊕ Unit :=
  if frames.isEmpty then .inr () else .inl ⟨frames, .separator⟩

def skipValueStep (frames : List Container) (b : UInt8) : Reader (Skipping ⊕ Unit) := do
  if b == 0x5B then return .inl ⟨.list :: frames, .firstElement⟩
  else if b == 0x7B then return .inl ⟨.object :: frames, .firstMember⟩
  else
    skipScalar b
    return Skipping.ended frames

def skipMemberStep (frames : List Container) (b : UInt8) : Reader (Skipping ⊕ Unit) := do
  if b == 0x22 then
    skipText
    expectToken 0x3A
    return .inl ⟨frames, .value⟩
  else Reader.fail .malformed

/-- Pass over one token, of which `b` is the first byte. -/
def skipStep (state : Skipping) (b : UInt8) : Reader (Skipping ⊕ Unit) :=
  match state.expected with
  | .value => skipValueStep state.frames b
  | .firstElement =>
    if b == 0x5D then pure (Skipping.ended state.frames.tail) else skipValueStep state.frames b
  | .firstMember =>
    if b == 0x7D then pure (Skipping.ended state.frames.tail) else skipMemberStep state.frames b
  | .member => skipMemberStep state.frames b
  | .separator =>
    let isObject := state.frames.head? == some .object
    if b == 0x2C then pure (.inl ⟨state.frames, if isObject then .member else .value⟩)
    else if b == (if isObject then 0x7D else 0x5D) then pure (Skipping.ended state.frames.tail)
    else Reader.fail .malformed

/-- Pass over a value of any depth. -/
def skipValue : Reader Unit := Reader.loop skipStep ⟨[], .value⟩

/-! ## Keeping a value of unknown type -/

/-- A value kept until its type is known. -/
inductive Buffered where
  | scalar (v : Scalar)
  | list (items : List Buffered)
  | object (members : List (String × Buffered))
  deriving Inhabited

namespace Buffered

def scalar? : Buffered → Option Scalar
  | .scalar v => some v
  | _ => none

def list? : Buffered → Option (List Buffered)
  | .list items => some items
  | _ => none

end Buffered

/-- Keep a value; `inner?` keeps those inside a container, if there is room for one. -/
def readBufferedWith (inner? : Option (Reader Buffered)) : Reader Buffered := do
  match ← Reader.peekToken with
  | none => Reader.fail .truncated
  | some b =>
    if b == 0x5B || b == 0x7B then
      match inner? with
      | none => Reader.fail .malformed
      | some inner =>
        Reader.advance
        if b == 0x5B then return .list (← readList inner)
        else
          let members ← readObject (fun key before => do
            expectToken 0x3A
            return (key, ← inner) :: before) []
          return .object members.reverse
    else return .scalar (← readScalar)

/-- Keep a value, with room for this many containers inside one another. -/
def readBuffered : Nat → Reader Buffered
  | 0 => readBufferedWith none
  | room + 1 => readBufferedWith (some (readBuffered room))

end ManagedAgent.Wire
