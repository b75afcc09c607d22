import ManagedAgent.NameMap
import ManagedAgent.Wire.Value

/-!
# Codecs

A `Codec` pairs the writer of a type with its reader. The reader is told how many containers are
open already, because no more than `maxDepth` may be open at a time. A `FlexibleCodec` can also
take its value from a buffered one.

The codecs of scalars, lists, optional values, maps and enumerations are here; records and tagged
unions have modules of their own.
-/

set_option autoImplicit false

namespace ManagedAgent.Wire

/-- How many containers may be inside one another. -/
def maxDepth : Nat := 127

/-- A type's written form: how to write a value, and how to read one inside `depth` containers. -/
structure Codec (α : Type) where
  write : α → Bytes
  read : (depth : Nat) → Reader α

/-- A codec that also reads values which were buffered before their type was known. -/
structure FlexibleCodec (α : Type) extends Codec α where
  ofBuffered : Buffered → Option α

/-- Enter a container, at its opening bracket. -/
def enter (depth : Nat) : Reader Unit :=
  if depth < maxDepth then Reader.advance else Reader.fail .malformed

/-! ## Writing containers -/

/-- Put a comma between written values. -/
def separate : List Bytes → Bytes
  | [] => []
  | [b] => b
  | b :: rest => b ++ 0x2C :: separate rest

def writeList (items : List Bytes) : Bytes := 0x5B :: separate items ++ [0x5D]

def writeMember (member : String × Bytes) : Bytes := writeText member.1 ++ 0x3A :: member.2

def writeObject (members : List (String × Bytes)) : Bytes :=
  0x7B :: separate (members.map writeMember) ++ [0x7D]

namespace Codec
variable {α : Type}

/-! ## Scalars -/

/-- A type whose values are scalars. -/
def scalar (write : α → Bytes) (project : Scalar → Option α) : FlexibleCodec α where
  write := write
  read _ := readAs project
  ofBuffered b := b.scalar?.bind project

def text : FlexibleCodec String :=
  scalar writeText fun
    | .text s => some s
    | _ => none

def bool : FlexibleCodec Bool :=
  scalar (fun b => ascii (if b then "true".toList else "false".toList)) fun
    | .bool b => some b
    | _ => none

def number (write : α → Bytes) (project : Number → Option α) : FlexibleCodec α :=
  scalar write fun
    | .number n => project n
    | _ => none

def uint64 : FlexibleCodec UInt64 := number (fun n => writeNat n.toNat) Number.toUInt64?

def uint32 : FlexibleCodec UInt32 := number (fun n => writeNat n.toNat) Number.toUInt32?

def int64 : FlexibleCodec Int64 := number (fun i => writeInt i.toInt) Number.toInt64?

def double : FlexibleCodec Double := number writeDouble fun n => some n.toDouble

def byte : FlexibleCodec UInt8 := number (fun n => writeNat n.toNat) Number.toByte?

/-- Nothing but `null`. -/
def null : FlexibleCodec Unit :=
  scalar (fun _ => ascii "null".toList) fun
    | .null => some ()
    | _ => none

/-! ## Containers -/

/-- A list of values of one type. -/
def list (item : Codec α) : Codec (List α) where
  write items := writeList (items.map item.write)
  read depth := do
    if (← Reader.peekToken) == some 0x5B then
      enter depth
      readList (item.read (depth + 1))
    else refuse

/-- Byte strings are lists of numbers. -/
def bytes : FlexibleCodec Bytes where
  toCodec := list byte.toCodec
  ofBuffered b := b.list?.bind fun items => items.mapM byte.ofBuffered

/-- An optional value; `null` is none. -/
def optional (value : Codec α) : Codec (Option α) where
  write
    | none => null.write ()
    | some a => value.write a
  read depth := do
    if (← Reader.peekToken) == some 0x6E then
      Reader.advance
      readLiteral [0x75, 0x6C, 0x6C]
      return none
    else return some (← value.read depth)

/-- An object with any keys; of two members of one key the later one counts. -/
def map (value : Codec α) : Codec (NameMap α) where
  write m := writeObject (m.entries.map fun e => (e.1, value.write e.2))
  read depth := do
    if (← Reader.peekToken) == some 0x7B then
      enter depth
      readObject (fun key before => do
        expectToken 0x3A
        return before.insert key (← value.read (depth + 1))) .empty
    else refuse

/-! ## Enumerations -/

/-- The value of this name among the values of a type. -/
def named? (name : α → String) (all : List α) (s : String) : Option α :=
  all.find? fun a => name a == s

/-- Values by name: the name as a text, or an object with the name as its only key and `null` as
the member. What is neither a text nor an object, an empty object and a second member are
malformed. -/
def readNamed (name : α → String) (all : List α) (depth : Nat) : Reader α := do
  let find (s : String) : Reader α := Reader.orMismatch (named? name all s)
  match ← Reader.peekToken with
  | none => Reader.fail .truncated
  | some b =>
    if b == 0x22 then find (← readAs textOnly)
    else if b == 0x7B then
      enter depth
      let a ← find (← readAs textOnly)
      expectToken 0x3A
      null.read (depth + 1)
      expectToken 0x7D
      return a
    else Reader.fail .malformed
where
  textOnly : Scalar → Option String
    | .text s => some s
    | _ => none

/-- The same of a buffered value, where an empty object does as well as `null`. -/
def namedOfBuffered (name : α → String) (all : List α) : Buffered → Option α
  | .scalar (.text s) => named? name all s
  | .object [(s, .scalar .null)] => named? name all s
  | .object [(s, .object [])] => named? name all s
  | _ => none

/-- A type of finitely many values, each written by its name. -/
def enumeration (name : α → String) (all : List α) : FlexibleCodec α where
  write a := writeText (name a)
  read := readNamed name all
  ofBuffered := namedOfBuffered name all

end Codec

end ManagedAgent.Wire
