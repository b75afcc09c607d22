import ManagedAgent.Url.Domain
import ManagedAgent.Url.Percent

/-!
# Hosts

A host is a domain name or an address of four or sixteen bytes. A name whose last label is a number
has to be an address.
-/

set_option autoImplicit false

namespace ManagedAgent.Url

/-- Why a text is no address. -/
inductive Problem where
  | relative
  | emptyHost
  | invalidPort
  | invalidIpv4
  | invalidIpv6
  | invalidDomain
  /-- A character that cannot stand in the host of a scheme of another kind. -/
  | invalidHostCharacter
  | unsupportedScheme (scheme : String)
  deriving DecidableEq, Inhabited

def Problem.message : Problem → String
  | .relative => "relative URL without a base"
  | .emptyHost => "empty host"
  | .invalidPort => "invalid port number"
  | .invalidIpv4 => "invalid IPv4 address"
  | .invalidIpv6 => "invalid IPv6 address"
  | .invalidDomain => "invalid international domain name"
  | .invalidHostCharacter => "invalid domain character"
  | .unsupportedScheme scheme => "unsupported scheme " ++ scheme

inductive Host where
  | domain (name : String)
  | ipv4 (address : UInt32)
  /-- Eight pieces of two bytes. -/
  | ipv6 (pieces : List UInt16)
  deriving DecidableEq, Inhabited

/-! ## Numbers -/

/-- The value of a digit of either case. -/
def digitValue? (c : Char) : Option Nat :=
  if c.isDigit then some (c.toNat - 0x30)
  else if 'a' ≤ c && c ≤ 'f' then some (c.toNat - 0x57)
  else if 'A' ≤ c && c ≤ 'F' then some (c.toNat - 0x37)
  else none

/-- The number of digits below `base`. -/
def number? (base : Nat) (digits : List Char) : Option Nat :=
  digits.foldlM (fun n c => do
    let d ← digitValue? c
    if d < base then some (n * base + d) else none) 0

/-! ## Addresses of four bytes -/

/-- A number in base ten, or after a zero in base eight, or after `0x` in base sixteen. -/
def ipv4Number? : List Char → Option Nat
  | [] => none
  | '0' :: x :: digits =>
    if x = 'x' || x = 'X' then number? 16 digits else number? 8 (x :: digits)
  | digits => number? 10 digits

/-- The labels of a name; a dot at the end does not count. -/
def ipv4Parts (name : List Char) : List (List Char) :=
  let parts := Domain.labels name
  if parts.getLast? = some [] then parts.dropLast else parts

/-- The last label is a number. -/
def endsInNumber (name : List Char) : Bool :=
  match (ipv4Parts name).getLast? with
  | none => false
  | some last => (!last.isEmpty && last.all Char.isDigit) || (ipv4Number? last).isSome

/-- Up to four numbers. The last one fills the bytes that are left. -/
def ipv4? (name : List Char) : Option UInt32 := do
  let numbers ← (ipv4Parts name).mapM ipv4Number?
  let last ← numbers.getLast?
  let bytes := numbers.dropLast
  if 4 < numbers.length || bytes.any (255 < ·) || 1 <<< (8 * (4 - bytes.length)) ≤ last then none
  else
    let high := bytes.foldl (fun n b => n * 256 + b) 0
    some (UInt32.ofNat (high <<< (8 * (4 - bytes.length)) + last))

def ipv4Text (a : UInt32) : String :=
  let n := a.toNat
  ".".intercalate ([n / 0x1000000, n / 0x10000 % 256, n / 256 % 256, n % 256].map toString)

/-! ## Addresses of sixteen bytes -/

/-- One to four hexadecimal digits. -/
def ipv6Piece? (s : List Char) : Option UInt16 :=
  if s.isEmpty || 4 < s.length then none else (number? 16 s).map UInt16.ofNat

/-- A byte in base ten without a zero in front. -/
def plainByte? (s : List Char) : Option Nat :=
  if s.isEmpty || (s.head? = some '0' && 1 < s.length) || !s.all Char.isDigit then none
  else (number? 10 s).filter (· ≤ 255)

/-- Two pieces written as four bytes. -/
def ipv6Tail? (s : List Char) : Option (List UInt16) := do
  match ← (s.splitOn '.').mapM plainByte? with
  | [a, b, c, d] => some [UInt16.ofNat (a * 256 + b), UInt16.ofNat (c * 256 + d)]
  | _ => none

/-- Pieces between colons; the last two may be written as four bytes. -/
def ipv6Pieces? (mayEndInBytes : Bool) (s : List Char) : Option (List UInt16) :=
  if s.isEmpty then some []
  else do
    let parts := s.splitOn ':'
    let last ← parts.getLast?
    let front ← parts.dropLast.mapM ipv6Piece?
    let back ← if mayEndInBytes && last.contains '.' then ipv6Tail? last
      else (ipv6Piece? last).map ([·])
    some (front ++ back)

/-- What comes before and after the first pair of colons. -/
def splitAtGap : List Char → Option (List Char × List Char)
  | ':' :: ':' :: r => some ([], r)
  | c :: r => (splitAtGap r).map fun p => (c :: p.1, p.2)
  | [] => none

/-- Eight pieces, or fewer around a gap of zeros. -/
def ipv6? (s : List Char) : Option (List UInt16) := do
  match splitAtGap s with
  | none => (← ipv6Pieces? true s) |> fun p => if p.length = 8 then some p else none
  | some (before, after) =>
    let before ← ipv6Pieces? false before
    let after ← ipv6Pieces? true after
    let count := before.length + after.length
    if 7 < count then none else some (before ++ List.replicate (8 - count) 0 ++ after)

/-- The number of zeros in front. -/
def zeros (pieces : List UInt16) : Nat := (pieces.takeWhile (· == 0)).length

/-- Where the first of the longest runs of zeros starts, if it has at least two, and its length. -/
def longestGap (pieces : List UInt16) : Option (Nat × Nat) :=
  (List.range pieces.length).foldl (fun best i =>
    let n := zeros (pieces.drop i)
    if 2 ≤ n && best.all (·.2 < n) then some (i, n) else best) none

def hexText (n : UInt16) : String := String.ofList (Nat.toDigits 16 n.toNat)

def ipv6Text (pieces : List UInt16) : String :=
  let text (l : List UInt16) : String := ":".intercalate (l.map hexText)
  match longestGap pieces with
  | none => text pieces
  | some (i, n) => text (pieces.take i) ++ "::" ++ text (pieces.drop (i + n))

namespace Host

def text : Host → String
  | .domain name => name
  | .ipv4 a => ipv4Text a
  | .ipv6 pieces => "[" ++ ipv6Text pieces ++ "]"

/-- An address between brackets, if the text starts with a bracket. -/
def bracketed? (s : List Char) : Option (Except Problem Host) :=
  match s with
  | '[' :: r =>
    some <|
      if r.getLast? = some ']' then
        match ipv6? r.dropLast with
        | some pieces => .ok (.ipv6 pieces)
        | none => .error .invalidIpv6
      else .error .invalidIpv6
  | _ => none

/-- The name of a host, with percent signs undone, as it is looked up. -/
def name? (s : List Char) : Option (List Char) := do
  let decoded ← Wire.ofUtf8 (Percent.decode (Wire.utf8 (String.ofList s)))
  Domain.toAscii? decoded.toList

/-- The host of an address of the web. -/
def parse (s : List Char) : Except Problem Host :=
  if s.isEmpty then .error .emptyHost
  else
    match bracketed? s with
    | some r => r
    | none =>
      match name? s with
      | none => .error .invalidDomain
      | some name =>
        if name.isEmpty then .error .emptyHost
        else if endsInNumber name then
          match ipv4? name with
          | some a => .ok (.ipv4 a)
          | none => .error .invalidIpv4
        else .ok (.domain (String.ofList name))

/-- A host of a scheme of another kind: nothing but its characters is checked. -/
def checkOther (s : List Char) : Except Problem Unit :=
  match bracketed? s with
  | some r => r.map fun _ => ()
  | none =>
    if s.any fun c => "\x00\t\n\r #/:<>?@[\\]^|".contains c then .error .invalidHostCharacter
    else .ok ()

end Host

end ManagedAgent.Url
