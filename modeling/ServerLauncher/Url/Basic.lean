import ServerLauncher.Text.Ranges

/-!
Web addresses by the URL standard: the parts of an address, the faults of a text that is none, and
percent encoding, by which a byte is written as a percent sign and two hexadecimal digits.
-/

namespace ServerLauncher

/-- Where an address leads: a name, or the number of a host. -/
inductive Url.Host where
  | domain (name : List Char)
  | ipv4 (address : Nat)
  | ipv6 (pieces : List Nat)
  deriving DecidableEq, Repr

/-- A path in steps, or text that no step can be taken from. -/
inductive Url.Path where
  | segments (steps : List (List Char))
  | text (cs : List Char)
  deriving DecidableEq, Repr

structure Url where
  scheme : List Char
  username : List Char
  password : List Char
  host : Option Url.Host
  port : Option Nat
  path : Url.Path
  query : Option (List Char)
  fragment : Option (List Char)
  deriving DecidableEq, Repr

inductive Url.Fault where
  | emptyHost
  | domainName
  | port
  | ipv4
  | ipv6
  | domainCharacter
  | noBase
  deriving DecidableEq, Repr

namespace Url

def Fault.text : Fault → String
  | emptyHost => "empty host"
  | domainName => "invalid international domain name"
  | port => "invalid port number"
  | ipv4 => "invalid IPv4 address"
  | ipv6 => "invalid IPv6 address"
  | domainCharacter => "invalid domain character"
  | noBase => "relative URL without a base"

/-- How much the standard knows of a scheme. -/
inductive Family where
  | file
  | special
  | other
  deriving DecidableEq, Repr

def Family.ofScheme (scheme : List Char) : Family :=
  if scheme = "file".toList then .file
  else if scheme ∈ ["http".toList, "https".toList, "ws".toList, "wss".toList, "ftp".toList] then
    .special
  else .other

/-- The port that need not be written. -/
def defaultPort? (scheme : List Char) : Option Nat :=
  if scheme = "http".toList ∨ scheme = "ws".toList then some 80
  else if scheme = "https".toList ∨ scheme = "wss".toList then some 443
  else if scheme = "ftp".toList then some 21
  else none

def segments (u : Url) : List (List Char) :=
  match u.path with
  | .segments steps => steps
  | .text _ => []

end Url

end ServerLauncher

namespace ServerLauncher.Url.Percent

def isHexDigit (c : Char) : Bool :=
  ('0' ≤ c && c ≤ '9') || ('a' ≤ c && c ≤ 'f') || ('A' ≤ c && c ≤ 'F')

def upperHexDigit (n : Nat) : Char :=
  if n < 10 then Char.ofNat (48 + n) else Char.ofNat (55 + n)

def utf8 (cs : List Char) : List UInt8 :=
  cs.flatMap String.utf8EncodeChar

def encodeByte (b : UInt8) : List Char :=
  ['%', upperHexDigit (b.toNat / 16), upperHexDigit (b.toNat % 16)]

/-- The characters chosen by `inSet` are written byte by byte, the others stay. -/
def encode (inSet : Char → Bool) (cs : List Char) : List Char :=
  cs.flatMap fun c => if inSet c then (String.utf8EncodeChar c).flatMap encodeByte else [c]

/-- The bytes that a text stands for. A percent sign without two digits stands for itself. -/
def decode : List Char → List UInt8
  | '%' :: a :: b :: rest =>
    if isHexDigit a && isHexDigit b then
      UInt8.ofNat (16 * Text.hexDigit a + Text.hexDigit b) :: decode rest
    else String.utf8EncodeChar '%' ++ decode (a :: b :: rest)
  | c :: rest => String.utf8EncodeChar c ++ decode rest
  | [] => []

/-- Controls and everything outside ASCII. -/
def inControlSet (c : Char) : Bool :=
  c.toNat < 0x20 || 0x7F ≤ c.toNat

def inFragmentSet (c : Char) : Bool :=
  inControlSet c || c == ' ' || c == '\x22' || c == '<' || c == '>' || c == '\x60'

def inQuerySet (c : Char) : Bool :=
  inControlSet c || c == ' ' || c == '\x22' || c == '#' || c == '<' || c == '>'

/-- In addresses of the well-known schemes an apostrophe is written out too. -/
def inSpecialQuerySet (c : Char) : Bool :=
  inQuerySet c || c == '\x27'

def inPathSet (c : Char) : Bool :=
  inFragmentSet c || c == '#' || c == '?' || c == '\x7b' || c == '\x7d'

def inUserSet (c : Char) : Bool :=
  inPathSet c || c == '/' || c == ':' || c == ';' || c == '=' || c == '@' || c == '[' ||
    c == '\\' || c == ']' || c == '^' || c == '|'

end ServerLauncher.Url.Percent
