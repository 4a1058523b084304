import ServerLauncher.Error
import ServerLauncher.Files.Change
import ServerLauncher.Text.Basic
import ServerLauncher.Url.Address

/-!
What a release store does when it is asked for an artifact, step by step, together with what
somebody else does to the file tree and to the cancellation token meanwhile, and with the faults of
the file that the body is kept in. A wait is under a time limit and the token: the token is looked
at first, then what is waited for, then the limit, so an item that becomes ready just at the limit
still counts.
-/

namespace ServerLauncher

structure Body where
  contentLength : Option Nat
  chunks : List Bytes
  deriving DecidableEq, Repr

namespace Body

def ofChunks (chunks : List Bytes) : Body :=
  ⟨some chunks.flatten.length, chunks⟩

def debugText (b : Body) : String :=
  let length :=
    match b.contentLength with
    | some n => "Some(" ++ toString n ++ ")"
    | none => "None"
  "ArtifactBody \x7b content_length: " ++ length ++ ", .. \x7d"

end Body

/-- A step of a response. Only chunks and failures are handed to the one who asks; the others are
taken on the way to them. A chunk that is `unwritten` arrives, but no more of it than `kept` comes
into the file. -/
inductive Step where
  | chunk (bytes : Bytes)
  | unwritten (kept : Bytes) (error : FileError)
  | fail (error : TransportError)
  | wait (millis : Nat)
  | hang
  | cancel
  | change (change : Change)
  deriving DecidableEq, Repr

inductive Answer where
  | body
  | fail (error : TransportError)
  | hang
  deriving DecidableEq, Repr

/-- How a file takes being closed: it can fail to be flushed, or to be synced after that. -/
structure Closing where
  flush : Option FileError := none
  sync : Option FileError := none
  deriving DecidableEq, Repr

/-- The first thing that fails, with the name of what was tried. -/
def Closing.fault? (c : Closing) : Option (String × FileError) :=
  (c.flush.map ("flush", ·)).or (c.sync.map ("sync", ·))

/-- A response: how long it is waited for, whether the token is fired then, the answer, the
announced length and the steps of the body. After the last step the body ends and the file it is
kept in is closed. -/
structure Response where
  delay : Nat := 0
  cancels : Bool := false
  answer : Answer := .body
  length : Option Nat := none
  steps : List Step := []
  closing : Closing := {}
  deriving DecidableEq, Repr

namespace Response

/-- The bytes of all chunks in order, as far as they come into the file. -/
def content (steps : List Step) : Bytes :=
  steps.flatMap fun
    | .chunk bytes => bytes
    | .unwritten kept _ => kept
    | _ => []

/-- What somebody else does to the tree in the course of the steps. -/
def changes (steps : List Step) : List Change :=
  steps.filterMap fun
    | .change c => some c
    | _ => none

end Response

/-- When a caller cancels: before the call, at a time after its start, or while an event is being
reported. -/
structure Cancellation where
  before : Bool := false
  atMillis : Option Nat := none
  onEvent : Option Nat := none
  deriving DecidableEq, Repr

/-- A clock in milliseconds, the end of the current wait, whether the token has fired, and when
somebody will fire it. -/
structure Watch where
  now : Nat
  limit : Nat
  fired : Bool
  fireAt : Option Nat
  deriving DecidableEq, Repr

inductive Interruption where
  | cancelled
  | stalled
  deriving DecidableEq, Repr

namespace Watch

def start (c : Cancellation) : Watch :=
  ⟨0, 0, c.before, c.atMillis⟩

def renew (w : Watch) (stall : Nat) : Watch :=
  { w with limit := w.now + stall }

def fire (w : Watch) : Watch :=
  { w with fired := true }

/-- Time passes without any waiting for the token. -/
def spend (w : Watch) (millis : Nat) : Watch :=
  { w with now := w.now + millis, fired := w.fired || w.fireAt.any (· ≤ w.now + millis) }

def firesBy (w : Watch) (t : Nat) : Bool :=
  w.fired || w.fireAt.any (· ≤ t)

/-- The time at which a wait is cut short by the token. -/
def cancelTime (w : Watch) : Nat :=
  if w.fired then w.now else max w.now (w.fireAt.getD w.now)

/-- Waits for something that is ready after `millis`. What is ready at once is not waited for. -/
def pass (w : Watch) (millis : Nat) : Watch × Option Interruption :=
  if millis = 0 then (w, none)
  else
    let ready := w.now + millis
    if w.firesBy (min ready w.limit) then
      ({ w with now := w.cancelTime, fired := true }, some .cancelled)
    else if ready ≤ w.limit then ({ w with now := ready }, none)
    else ({ w with now := w.limit }, some .stalled)

def hang (w : Watch) : Watch × Interruption :=
  if w.firesBy w.limit then ({ w with now := w.cancelTime, fired := true }, .cancelled)
  else ({ w with now := w.limit }, .stalled)

end Watch

end ServerLauncher

namespace ServerLauncher.Network

/-- The address as it is asked for: user and password are sent in another way. -/
def target (u : Url) : Url :=
  { u with username := [], password := [] }

/-- Why the host of an address cannot be reached. Names are not found, numbers have no route. -/
def obstacle (u : Url) : String :=
  match u.host with
  | some (.domain _) =>
    "dns error: failed to lookup address information: Temporary failure in name resolution"
  | _ => "tcp connect error: " ++ OsError.networkUnreachable.text

/-- The text of a request that failed. -/
def failure (text : String) : String :=
  match Url.parse text with
  | .error fault => "builder error: " ++ fault.text
  | .ok u =>
    "error sending request for url (" ++ (target u).text ++ "): error trying to connect: " ++
      obstacle u

def respond (url : String) : Response :=
  { answer := .fail (.connection ("HTTP request failed for " ++ url ++ ": " ++ failure url)) }

/-- Settings that no requests can be made with. -/
def clientFault? (c : Config) : Option TransportError :=
  if Config.isHeaderText c.userAgent then none
  else
    some (.connection "Failed to build HTTP client: builder error: failed to parse header value")

/-- The settings have no fault, and requests can be made with them. -/
def check (c : Config) : Except AcquireError Unit :=
  match c.validate with
  | .error e => .error (.config e)
  | .ok () =>
    match clientFault? c with
    | some e => .error (.transport e)
    | none => .ok ()

end ServerLauncher.Network
