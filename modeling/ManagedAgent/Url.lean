import ManagedAgent.Url.Host

/-!
# Addresses of the web

`Url.parse` reads an address the way browsers do: blanks around it and line breaks in it do not
count, dots in the path are resolved, and characters that may not stand somewhere are
percent-encoded. `Url.text` writes the address in its one form.
-/

set_option autoImplicit false

namespace ManagedAgent

/-- The schemes that requests can be sent with. -/
inductive Url.Scheme where
  | http
  | https
  deriving DecidableEq, Inhabited

structure Url where
  scheme : Url.Scheme
  /-- Percent-encoded, like all parts below. -/
  user : String := ""
  password : Option String := none
  host : Url.Host
  /-- A port other than the usual one. -/
  port : Option Nat := none
  /-- The parts of the path, each after a slash. -/
  path : List String := [""]
  query : Option String := none
  fragment : Option String := none
  deriving DecidableEq, Inhabited

namespace Url

def Scheme.name : Scheme → String
  | .http => "http"
  | .https => "https"

def Scheme.usualPort : Scheme → Nat
  | .http => 80
  | .https => 443

def Scheme.ofName? (name : String) : Option Scheme :=
  [Scheme.http, .https].find? (·.name == name)

/-! ## Writing -/

def credentials (u : Url) : String :=
  match u.password with
  | some p => u.user ++ ":" ++ p ++ "@"
  | none => if u.user = "" then "" else u.user ++ "@"

def portText : Option Nat → String
  | some p => ":" ++ toString p
  | none => ""

def after (mark : String) : Option String → String
  | some s => mark ++ s
  | none => ""

def text (u : Url) : String :=
  u.scheme.name ++ "://" ++ u.credentials ++ u.host.text ++ portText u.port
    ++ String.join (u.path.map ("/" ++ ·)) ++ after "?" u.query ++ after "#" u.fragment

/-! ## Reading -/

/-- What counts of a text: blanks and controls around it do not, nor do tabs and line breaks. -/
def significant (s : String) : List Char :=
  let isOuter (c : Char) : Bool := c.toNat ≤ 0x20
  let inner := ((s.toList.dropWhile isOuter).reverse.dropWhile isOuter).reverse
  inner.filter fun c => c ≠ '\t' && c ≠ '\n' && c ≠ '\x0d'

def isSchemeChar (c : Char) : Bool := c.isAlphanum || "+-.".contains c

/-- The scheme in lower case, and what follows its colon. -/
def splitScheme (s : List Char) : Option (String × List Char) :=
  match s.dropWhile isSchemeChar with
  | ':' :: r =>
    if s.head?.any Char.isAlpha then
      some (String.ofList ((s.takeWhile isSchemeChar).map Char.toLower), r)
    else none
  | _ => none

def isSlash (c : Char) : Bool := c == '/' || c == '\\'

/-- A character that ends the authority of an address. -/
def endsAuthority (isWeb : Bool) (c : Char) : Bool := "/?#".contains c || (isWeb && c == '\\')

/-- What comes before and after the last at sign. -/
def splitCredentials (s : List Char) : Option (List Char) × List Char :=
  let r := s.reverse
  match r.dropWhile (· ≠ '@') with
  | [] => (none, s)
  | _ :: front => (some front.reverse, (r.takeWhile (· ≠ '@')).reverse)

/-- The user, and a password that is not empty. -/
def userAndPassword (s : List Char) : String × Option String :=
  let user := Percent.encode Percent.userSet (s.takeWhile (· ≠ ':'))
  match s.dropWhile (· ≠ ':') with
  | [] | [_] => (user, none)
  | _ :: password => (user, some (Percent.encode Percent.userSet password))

/-- The host, and what follows it: it ends at the first colon that is not between brackets. -/
def splitHost : (inBrackets : Bool) → List Char → List Char × List Char
  | _, [] => ([], [])
  | inBrackets, c :: r =>
    if c = ':' && !inBrackets then ([], c :: r)
    else
      let (host, rest) := splitHost (if c = '[' then true else if c = ']' then false else inBrackets) r
      (c :: host, rest)

/-- The port after a colon; none is given where there are no digits. Whatever follows a backslash
is not looked at. -/
def parsePort : List Char → Except Problem (Option Nat)
  | ':' :: r =>
    let digits := r.takeWhile Char.isDigit
    let rest := r.dropWhile Char.isDigit
    let n := (number? 10 digits).getD 0
    if 65535 < n then .error .invalidPort
    else if rest.head?.all (· == '\\') then .ok (if digits.isEmpty then none else some n)
    else .error .invalidPort
  | _ => .ok none

/-- An address has at most these parts besides its scheme. -/
structure Authority where
  user : String
  password : Option String
  host : List Char
  /-- The colon and what follows it. -/
  port : List Char

def splitAuthority (s : List Char) : Authority :=
  let (credentials, rest) := splitCredentials s
  let (user, password) := userAndPassword (credentials.getD [])
  let (host, port) := splitHost false rest
  ⟨user, password, host, port⟩

/-! ### Paths -/

def isSingleDot (s : List Char) : Bool :=
  ["." , "%2e"].contains (String.ofList (s.map Char.toLower))

def isDoubleDot (s : List Char) : Bool :=
  ["..", ".%2e", "%2e.", "%2e%2e"].contains (String.ofList (s.map Char.toLower))

/-- The parts of a path between slashes. -/
def splitPath : List Char → List (List Char)
  | [] => [[]]
  | c :: r =>
    if isSlash c then [] :: splitPath r
    else
      match splitPath r with
      | [] => [[c]]
      | part :: parts => (c :: part) :: parts

/-- Resolve dots: one dot stays where it is, two go one part up. The parts so far are in reverse. -/
def resolveDots (done : List (List Char)) : List (List Char) → List (List Char)
  | [] => done.reverse
  | part :: rest =>
    let isLast := rest.isEmpty
    if isDoubleDot part then resolveDots (if isLast then [] :: done.tail else done.tail) rest
    else if isSingleDot part then resolveDots (if isLast then [] :: done else done) rest
    else resolveDots (part :: done) rest

/-- The path after the authority. -/
def parsePath (s : List Char) : List String :=
  let s := if s.head?.any isSlash then s.tail else s
  (resolveDots [] (splitPath s)).map (Percent.encode Percent.pathSet)

/-- What follows a mark, if the mark is there. -/
def afterMark (mark : Char) (set : Percent.CharSet) (s : List Char) : Option String :=
  match s with
  | c :: r => if c = mark then some (Percent.encode set r) else none
  | [] => none

/-! ### Whole addresses -/

/-- An address of the web, after the colon of its scheme. -/
def parseWeb (scheme : Scheme) (s : List Char) : Except Problem Url := do
  let s := s.dropWhile isSlash
  let authority := splitAuthority (s.takeWhile fun c => !endsAuthority true c)
  let rest := s.dropWhile fun c => !endsAuthority true c
  let host ← Host.parse authority.host
  let port ← parsePort authority.port
  let beforeFragment := rest.takeWhile (· ≠ '#')
  return {
    scheme
    user := authority.user
    password := authority.password
    host
    port := port.filter (· ≠ scheme.usualPort)
    path := parsePath (beforeFragment.takeWhile (· ≠ '?'))
    query := afterMark '?' Percent.querySet (beforeFragment.dropWhile (· ≠ '?'))
    fragment := afterMark '#' Percent.fragmentSet (rest.dropWhile (· ≠ '#')) }

/-- Schemes of the web that requests cannot be sent with. -/
def otherWebSchemes : List String := ["ftp", "ws", "wss"]

/-- What is checked of an address with the scheme `file`: its host, if it has one. -/
def checkFile (s : List Char) : Except Problem Unit :=
  match s with
  | a :: b :: r =>
    let host := r.takeWhile fun c => !endsAuthority true c
    let isDrive := match host with
      | [letter, mark] => letter.isAlpha && (mark == ':' || mark == '|')
      | _ => false
    if isSlash a && isSlash b && !host.isEmpty && !isDrive then (Host.parse host).map fun _ => ()
    else .ok ()
  | _ => .ok ()

/-- What is checked of an address with a scheme of another kind: its authority, if it has one. -/
def checkOther (s : List Char) : Except Problem Unit :=
  match s with
  | '/' :: '/' :: r => do
    let authority := splitAuthority (r.takeWhile fun c => !endsAuthority false c)
    Host.checkOther authority.host
    let hasCredentials := authority.user ≠ "" || authority.password.isSome
    if authority.host.isEmpty && (hasCredentials || !authority.port.isEmpty) then .error .emptyHost
    else (parsePort authority.port).map fun _ => ()
  | _ => .ok ()

def parse (s : String) : Except Problem Url := do
  let some (scheme, rest) := splitScheme (significant s) | .error .relative
  match Scheme.ofName? scheme with
  | some scheme => parseWeb scheme rest
  | none =>
    if otherWebSchemes.contains scheme then let _ ← parseWeb .http rest
    else if scheme = "file" then checkFile rest
    else checkOther rest
    .error (.unsupportedScheme scheme)

end Url

end ManagedAgent
