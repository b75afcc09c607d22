import ManagedAgent.Gzip.Token

/-!
# Blocks of compressed data

A text is written in blocks: bytes as they are, or tokens in a fixed code, or tokens in codes that
the block itself describes. `inflate` reads all three kinds; `deflate` writes one block of the
second kind.
-/

set_option autoImplicit false

namespace ManagedAgent.Gzip

/-! ## Symbols of tokens -/

/-- The numbers from `base` on that are told apart by `extra` further bits. -/
structure NumberRange where
  base : Nat
  extra : Nat
  deriving DecidableEq, Inhabited

/-- The lengths of copies, from symbol 257 on. -/
def lengthRanges : List NumberRange :=
  [⟨3, 0⟩, ⟨4, 0⟩, ⟨5, 0⟩, ⟨6, 0⟩, ⟨7, 0⟩, ⟨8, 0⟩, ⟨9, 0⟩, ⟨10, 0⟩,
   ⟨11, 1⟩, ⟨13, 1⟩, ⟨15, 1⟩, ⟨17, 1⟩, ⟨19, 2⟩, ⟨23, 2⟩, ⟨27, 2⟩, ⟨31, 2⟩,
   ⟨35, 3⟩, ⟨43, 3⟩, ⟨51, 3⟩, ⟨59, 3⟩, ⟨67, 4⟩, ⟨83, 4⟩, ⟨99, 4⟩, ⟨115, 4⟩,
   ⟨131, 5⟩, ⟨163, 5⟩, ⟨195, 5⟩, ⟨227, 5⟩, ⟨258, 0⟩]

/-- The distances of copies. -/
def distanceRanges : List NumberRange :=
  [⟨1, 0⟩, ⟨2, 0⟩, ⟨3, 0⟩, ⟨4, 0⟩, ⟨5, 1⟩, ⟨7, 1⟩, ⟨9, 2⟩, ⟨13, 2⟩, ⟨17, 3⟩, ⟨25, 3⟩,
   ⟨33, 4⟩, ⟨49, 4⟩, ⟨65, 5⟩, ⟨97, 5⟩, ⟨129, 6⟩, ⟨193, 6⟩, ⟨257, 7⟩, ⟨385, 7⟩, ⟨513, 8⟩, ⟨769, 8⟩,
   ⟨1025, 9⟩, ⟨1537, 9⟩, ⟨2049, 10⟩, ⟨3073, 10⟩, ⟨4097, 11⟩, ⟨6145, 11⟩, ⟨8193, 12⟩, ⟨12289, 12⟩,
   ⟨16385, 13⟩, ⟨24577, 13⟩]

/-- The codes of a block: one for literals, lengths and the end, one for distances. -/
structure Codes where
  literals : Tree
  distances : Tree
  deriving DecidableEq, Inhabited

def endSymbol : Nat := 256

def Codes.fixed : Codes where
  literals := .ofLengths <|
    List.replicate 144 8 ++ List.replicate 112 9 ++ List.replicate 24 7 ++ List.replicate 8 8
  distances := .ofLengths (List.replicate 32 5)

/-! ## Reading -/

namespace BitReader

/-- The number that a symbol and the bits after it say. -/
def ranged (ranges : List NumberRange) (symbol : Nat) : BitReader Nat :=
  match ranges[symbol]? with
  | none => Reader.fail .corrupt
  | some r => return r.base + (← number r.extra)

/-- The token of a symbol other than the end. -/
def token (codes : Codes) (symbol : Nat) : BitReader Token := do
  if symbol < endSymbol then return .literal (UInt8.ofNat symbol)
  else
    let length ← ranged lengthRanges (symbol - endSymbol - 1)
    let distance ← ranged distanceRanges (← codes.distances.read)
    return .copy distance length

/-- Tokens up to the end of the block, added to the text so far. -/
def tokens (codes : Codes) (history : Bytes) : BitReader Bytes :=
  Reader.loop .incomplete (fun history b => do
    let symbol ← (codes.literals.child b).read
    if symbol = endSymbol then return .inr history
    else return .inl ((← token codes symbol).expand history)) history

/-- Bytes as they are, after their number and its complement. -/
def stored : BitReader Bytes := do
  align
  let length ← number 16
  let complement ← number 16
  if length + complement = 0xFFFF then bytes length else Reader.fail .corrupt

/-- The order in which the lengths of the words for lengths are given. -/
def lengthOrder : List Nat := [16, 17, 18, 0, 8, 7, 9, 6, 10, 5, 11, 4, 12, 3, 13, 2, 14, 1, 15]

def numbers (width : Nat) : (count : Nat) → BitReader (List Nat)
  | 0 => pure []
  | count + 1 => do return (← number width) :: (← numbers width count)

/-- Lengths that a symbol says after these, the last length first. -/
def lengthsOf (lengths : List Nat) (symbol : Nat) : BitReader (List Nat) := do
  match symbol with
  | 16 =>
    match lengths with
    | [] => Reader.fail .corrupt
    | last :: _ => return List.replicate (3 + (← number 2)) last
  | 17 => return List.replicate (3 + (← number 3)) 0
  | 18 => return List.replicate (11 + (← number 7)) 0
  | _ => return [symbol]

def lengths (code : Tree) (count : Nat) : BitReader (List Nat) :=
  Reader.loop .incomplete (fun lengths b => do
    let symbol ← (code.child b).read
    let lengths := (← lengthsOf lengths symbol) ++ lengths
    if lengths.length < count then return .inl lengths
    else if lengths.length = count then return .inr lengths.reverse
    else Reader.fail .corrupt) []

def codes : BitReader Codes := do
  let literals := (← number 5) + 257
  let distances := (← number 5) + 1
  let given := (← number 4) + 4
  if 286 < literals ∨ 30 < distances then Reader.fail .corrupt
  else
    let given := lengthOrder.zip (← numbers 3 given)
    let wordLengths := (List.range 19).map fun symbol => (given.lookup symbol).getD 0
    if Tree.isFull wordLengths then
      let all ← lengths (.ofLengths wordLengths) (literals + distances)
      let (literals, distances) := all.splitAt literals
      if Tree.isFullOrTrivial literals ∧ Tree.isFullOrTrivial distances then
        return ⟨.ofLengths literals, .ofLengths distances⟩
      else Reader.fail .corrupt
    else Reader.fail .corrupt

/-- What one block adds to the text so far. -/
def block (history : Bytes) : BitReader Bytes := do
  match ← number 2 with
  | 0 => return (← stored).reverse ++ history
  | 1 => tokens .fixed history
  | 2 => tokens (← codes) history
  | _ => Reader.fail .corrupt

/-- Blocks up to the one that is marked as the last. -/
def blocks : BitReader Bytes :=
  Reader.loop .incomplete (fun history isLast => do
    let history ← block history
    return if isLast then .inr history else .inl history) []

end BitReader

/-- The text of compressed data, and the bytes after that data. -/
def inflate (data : Bytes) : Except Failure (Bytes × Bytes) :=
  match Reader.run BitReader.blocks (Bits.ofBytes data) with
  | .error e => .error e
  | .ok (history, rest) => .ok (history.reverse, data.drop (data.length - rest.length / 8))

/-! ## Writing -/

/-- The word of a symbol in the fixed codes. -/
def wordIn (code : Tree) (symbol : Nat) : Bits := (code.word? symbol).getD []

/-- The last range that starts no later than `n`, with its place. -/
def rangeOf (ranges : List NumberRange) (n : Nat) : NumberRange × Nat :=
  (ranges.zipIdx.findRev? (·.1.base ≤ n)).getD default

/-- A number as the symbol of its range and the bits after it. -/
def writeRanged (code : Tree) (ranges : List NumberRange) (first n : Nat) : Bits :=
  let (range, place) := rangeOf ranges n
  wordIn code (first + place) ++ Bits.ofNat range.extra (n - range.base)

def Token.write (codes : Codes) : Token → Bits
  | .literal b => wordIn codes.literals b.toNat
  | .copy distance length =>
    writeRanged codes.literals lengthRanges (endSymbol + 1) length
      ++ writeRanged codes.distances distanceRanges 0 distance

/-- One block of tokens in the fixed codes, marked as the last. -/
def writeBlock (tokens : List Token) : Bits :=
  let codes := Codes.fixed
  true :: Bits.ofNat 2 1 ++ tokens.flatMap (Token.write codes) ++ wordIn codes.literals endSymbol

def deflate (text : Bytes) : Bytes := (writeBlock (tokenize text)).toBytes

end ManagedAgent.Gzip
