import ServerLauncher.Config
import ServerLauncher.Files.Error

/-!
What can go wrong while a server is acquired. Every error has one text and the texts of the causes
below it. A cancelled download is no error.
-/

namespace ServerLauncher

inductive TransportError where
  | status (code : Nat) (url : String)
  | connection (text : String)
  | body (text : String)
  | stalled (after : Duration)
  deriving DecidableEq, Repr

def TransportError.message : TransportError → String
  | status code url => "Download failed with status " ++ toString code ++ ": " ++ url
  | connection text => "Connection error: " ++ text
  | body text => "Error reading download stream: " ++ text
  | stalled after => "Download stalled for " ++ after.text

inductive AcquireError where
  | unsupportedPlatform (os : String)
  | invalidTag (tag reason : String)
  | file (action path : String) (cause : FileError)
  | transport (error : TransportError)
  | config (error : ConfigError)
  deriving DecidableEq, Repr

namespace AcquireError

def message : AcquireError → String
  | unsupportedPlatform os =>
    "Unsupported platform: no prosemd-lsp build is published for '" ++ os ++ "'"
  | invalidTag tag reason => "Invalid version tag '" ++ tag ++ "': " ++ reason
  | file action path cause => "Failed to " ++ action ++ " " ++ path ++ ": " ++ cause.text
  | transport error => error.message
  | config error => error.message

/-- The texts of the causes below the error. Transport and settings speak for themselves. -/
def sources : AcquireError → List String
  | file _ _ cause => [cause.text]
  | config error => error.sources
  | _ => []

def isFile : AcquireError → Bool
  | file .. => true
  | _ => false

def isTransport : AcquireError → Bool
  | transport _ => true
  | _ => false

def exitCode : AcquireError → Nat
  | invalidTag .. => 64
  | unsupportedPlatform _ => 69
  | file .. => 74
  | transport _ => 75
  | config _ => 78

end AcquireError

inductive PathError where
  | noDataDir
  | emptyPath
  | notDirectory (path : String)
  deriving DecidableEq, Repr

def PathError.message : PathError → String
  | noDataDir => "Cannot determine system data directory"
  | emptyPath => "Path cannot be empty"
  | notDirectory path => path ++ " exists but is not a directory"

/-- Whatever makes a command fail. What has no type of its own here has a text and the texts of its
sources. -/
inductive Cause where
  | acquire (error : AcquireError)
  | path (error : PathError)
  | transport (error : TransportError)
  | file (error : FileError)
  | other (text : String) (sources : List String)
  deriving DecidableEq, Repr

/-- The types that an error can be asked for: those of the causes, and the texts of remarks. -/
inductive ErrorType where
  | acquire
  | path
  | transport
  | file
  | other
  | remark
  deriving DecidableEq, Repr

abbrev ErrorType.Value : ErrorType → Type
  | acquire => AcquireError
  | path => PathError
  | transport => TransportError
  | file => FileError
  | other => String × List String
  | remark => String

namespace Cause

/-- The cause as a value of a type, if it is one. -/
def as? : Cause → (τ : ErrorType) → Option τ.Value
  | acquire error, .acquire => some error
  | path error, .path => some error
  | transport error, .transport => some error
  | file error, .file => some error
  | other text sources, .other => some (text, sources)
  | _, _ => none

/-- The text of the cause and those of the causes below it. -/
def chain : Cause → List String
  | acquire error => error.message :: error.sources
  | path error => [error.message]
  | transport error => [error.message]
  | file error => [error.text]
  | other text sources => text :: sources

end Cause

/-- What errors are passed on with. An error is made of a cause, remarks are put around it, and it
can be asked for a value of a type, shown by its outermost text, and printed with all its texts. -/
structure ErrorKit where
  Error : Type
  new : Cause → Error
  context : String → Error → Error
  downcast? : Error → (τ : ErrorType) → Option τ.Value
  display : Error → String
  chain : Error → List String
  print : Error → String

namespace ErrorKit

/-- Puts remarks around an error, the first one innermost. -/
def wrap (K : ErrorKit) (e : K.Error) (contexts : List String) : K.Error :=
  contexts.foldl (fun e c => K.context c e) e

/-- The exit code of a failed command. Failures of acquisitions have codes by their kind, and those
of finding the storage root have one. -/
def exitCode (K : ErrorKit) (e : K.Error) : Nat :=
  match K.downcast? e .acquire with
  | some error => error.exitCode
  | none => if (K.downcast? e .path).isSome then 78 else 1

end ErrorKit

/-- How an error has come about: a cause with remarks put around it one after another. -/
inductive Failure where
  | bare (cause : Cause)
  | within (context : String) (inner : Failure)
  deriving DecidableEq, Repr

namespace Failure

def build (K : ErrorKit) : Failure → K.Error
  | bare cause => K.new cause
  | within context inner => K.context context (inner.build K)

def chain : Failure → List String
  | bare cause => cause.chain
  | within context inner => context :: inner.chain

def downcast? : Failure → (τ : ErrorType) → Option τ.Value
  | bare cause, τ => cause.as? τ
  | within context _, .remark => some context
  | within _ inner, τ => inner.downcast? τ

end Failure

/-- Errors that are nothing but the way they have come about. -/
def ErrorKit.plain : ErrorKit where
  Error := Failure
  new := .bare
  context := .within
  downcast? := Failure.downcast?
  display f := f.chain.headD ""
  chain := Failure.chain
  print f := ": ".intercalate f.chain

/-- The exit code of a cancelled command. -/
def cancelledExitCode : Nat := 130

end ServerLauncher
