import ManagedAgent.Wire.Codec

/-!
# Tagged unions

A value of a tagged union is written as an object with two members, the name of its variant and
the content. The members may come in either order: a content that comes before its tag is buffered.
Other members are passed over. A list of tag and content does as well.
-/

set_option autoImplicit false

namespace ManagedAgent.Wire

/-- One variant of a union type `σ`. -/
structure Variant (σ : Type) where
  name : String
  /-- The written content of a value of this variant; a variant without content has none. -/
  write : σ → Option Bytes
  read : (depth : Nat) → Reader σ
  ofBuffered : Buffered → Option σ
  /-- The value of the variant when its content is missing. -/
  bare : Option σ

namespace Variant
variable {σ α : Type}

/-- A variant that holds a value of `α`. -/
def holding (name : String) (codec : FlexibleCodec α) (wrap : α → σ) (unwrap : σ → Option α) :
    Variant σ where
  name := name
  write v := (unwrap v).map codec.write
  read depth := do return wrap (← codec.read depth)
  ofBuffered b := (codec.ofBuffered b).map wrap
  bare := none

/-- A variant without content: it may be missing or `null`. -/
def constant (name : String) (value : σ) : Variant σ where
  name := name
  write _ := none
  read depth := do
    Codec.null.read depth
    return value
  ofBuffered b := (Codec.null.ofBuffered b).map fun _ => value
  bare := some value

end Variant

/-- A union: the keys of tag and content, its variants, and the one that a value belongs to. -/
structure Union (σ : Type) where
  tagKey : String
  contentKey : String
  variants : List (Variant σ)
  variantOf : σ → Variant σ

namespace Union
variable {σ : Type}

/-- How far the reading of a value has got. -/
inductive Progress (σ : Type) where
  | nothing
  | tag (v : Variant σ)
  | content (b : Buffered)
  | value (a : σ)

def readTag (u : Union σ) (depth : Nat) : Reader (Variant σ) :=
  Codec.readNamed Variant.name u.variants depth

/-- Read what follows a key, inside the union's object. -/
def readMember (u : Union σ) (depth : Nat) (key : String) : Progress σ → Reader (Progress σ)
  | .nothing =>
    if key = u.tagKey then do
      expectToken 0x3A
      return .tag (← u.readTag depth)
    else if key = u.contentKey then do
      expectToken 0x3A
      return .content (← readBuffered (maxDepth - depth))
    else other .nothing
  | .tag v =>
    if key = u.tagKey then Reader.fail .mismatch
    else if key = u.contentKey then do
      expectToken 0x3A
      return .value (← v.read depth)
    else other (.tag v)
  | .content b =>
    if key = u.tagKey then do
      expectToken 0x3A
      let v ← u.readTag depth
      return .value (← Reader.orMismatch (v.ofBuffered b))
    else if key = u.contentKey then Reader.fail .mismatch
    else other (.content b)
  | .value a =>
    if key = u.tagKey then Reader.fail .mismatch
    else if key = u.contentKey then Reader.fail .mismatch
    else other (.value a)
where
  /-- A member with another key is passed over. -/
  other (p : Progress σ) : Reader (Progress σ) := do
    expectToken 0x3A
    skipValue
    return p

/-- The value that was read, if it is complete. -/
def Progress.finish : Progress σ → Option σ
  | .value a => some a
  | .tag v => v.bare
  | _ => none

/-- A value from a list of tag and content. -/
def readPair (u : Union σ) (depth : Nat) : Reader σ := do
  if ← hasElement true then
    let v ← u.readTag depth
    if ← hasElement false then
      let a ← v.read depth
      closeList
      return a
    else Reader.fail .mismatch
  else Reader.fail .mismatch

def codec (u : Union σ) : Codec σ where
  write a :=
    let v := u.variantOf a
    writeObject ((u.tagKey, writeText v.name) :: ((v.write a).map (u.contentKey, ·)).toList)
  read depth := do
    let b ← Reader.peekToken
    if b == some 0x5B then
      enter depth
      u.readPair (depth + 1)
    else if b == some 0x7B then
      enter depth
      let p ← readObject (u.readMember (depth + 1)) .nothing
      Reader.orMismatch p.finish
    else refuse

end Union

end ManagedAgent.Wire
