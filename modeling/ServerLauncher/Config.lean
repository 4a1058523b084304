import ServerLauncher.Text.Basic
import ServerLauncher.Url.Parser

/-!
Settings of an acquisition, and the check of them that comes before any other work. A length of time
is written in its largest unit with a whole part, without trailing zeros in the fraction.
-/

namespace ServerLauncher

structure Duration where
  secs : Nat
  nanos : Nat
  deriving DecidableEq, Repr

namespace Duration

/-- Whole seconds among the billionths are carried over. -/
def ofParts (secs nanos : Nat) : Duration :=
  ⟨secs + nanos / 1000000000, nanos % 1000000000⟩

def ofSecs (n : Nat) : Duration := ⟨n, 0⟩

def ofMillis (n : Nat) : Duration := ⟨n / 1000, n % 1000 * 1000000⟩

def toNanos (d : Duration) : Nat := d.secs * 1000000000 + d.nanos

/-- The length on a clock that counts milliseconds; a begun one counts as a whole. -/
def millis (d : Duration) : Nat := (d.toNanos + 999999) / 1000000

/-- The digits of `n`, filled up with zeros on the left to `width` of them. -/
def digits (width n : Nat) : List Char :=
  let ds := Nat.toDigits 10 n
  List.replicate (width - ds.length) '0' ++ ds

/-- A point and the `width` decimal places of `n` without trailing zeros; nothing for zero. -/
def fraction (width n : Nat) : List Char :=
  if n = 0 then [] else '.' :: ((digits width n).reverse.dropWhile (· == '0')).reverse

def text (d : Duration) : String :=
  let written (whole width rest : Nat) (unit : String) : String :=
    toString whole ++ String.ofList (fraction width rest) ++ unit
  if 0 < d.secs then written d.secs 9 d.nanos "s"
  else if 1000000 ≤ d.nanos then written (d.nanos / 1000000) 6 (d.nanos % 1000000) "ms"
  else if 1000 ≤ d.nanos then written (d.nanos / 1000) 3 (d.nanos % 1000) "µs"
  else toString d.nanos ++ "ns"

end Duration

/-- Where the server is published, how a copy is tried, and how long each step may take. -/
structure Config where
  releaseUrl : String := "https://github.com/kitten/prosemd-lsp/releases/download"
  artifact : String := "prosemd-lsp"
  probeArg : String := "--version"
  probeTimeout : Duration := .ofSecs 10
  connectTimeout : Duration := .ofSecs 30
  stallTimeout : Duration := .ofSecs 60
  userAgent : String := "prosemd-launch/0.1.0"
  deriving DecidableEq, Repr

inductive ConfigError where
  | invalidUrl (url : String) (cause : Url.Fault)
  | unsupportedScheme (url : String)
  | emptyArtifact
  deriving DecidableEq, Repr

namespace ConfigError

def message : ConfigError → String
  | invalidUrl url cause => "Invalid release URL '" ++ url ++ "': " ++ cause.text
  | unsupportedScheme url => "Release URL must use http or https: " ++ url
  | emptyArtifact => "Artifact name cannot be empty"

def sources : ConfigError → List String
  | invalidUrl _ cause => [cause.text]
  | _ => []

end ConfigError

namespace Config

/-- The first fault of the settings: the address, its scheme, then the name of the artifact. -/
def validate (c : Config) : Except ConfigError Unit :=
  match Url.parse c.releaseUrl with
  | .error cause => .error (.invalidUrl c.releaseUrl cause)
  | .ok url =>
    if url.scheme ≠ "http".toList ∧ url.scheme ≠ "https".toList then
      .error (.unsupportedScheme c.releaseUrl)
    else if Text.trimChars c.artifact.toList = [] then .error .emptyArtifact
    else .ok ()

/-- A header may hold tabs, but no other control character. -/
def isHeaderText (s : String) : Bool :=
  s.toList.all fun c => c == '\t' || (0x20 ≤ c.toNat && c.toNat != 0x7F)

end Config

end ServerLauncher
