import ServerLauncher.Files.Staged
import ServerLauncher.Progress.Tracker
import ServerLauncher.Transport

/-!
Downloading one artifact. The bytes go into a staged file, and the destination is touched only by
its move at the very end. However else a download ends, the staged file is removed, also when it
cannot be written, flushed or synced. The response and every chunk are waited for under the stall
time; the token is looked at before the request and at the start of each wait.
-/

namespace ServerLauncher

/-- What somebody may see of a transfer: the file tree, the clock and the token, the events that
were reported and the addresses that were asked for. With `paced` the clock also counts for the
spacing of events. -/
structure Transfer where
  tree : Tree
  watch : Watch
  onEvent : Option Nat := none
  paced : Bool := false
  events : List Progress.Event := []
  requests : List String := []
  deriving DecidableEq, Repr

inductive Ending where
  | completed (bytes : Nat)
  | cancelled
  | failed (error : AcquireError)
  deriving DecidableEq, Repr

namespace Transfer

/-- The state before the first event and the first request. -/
def start (t : Tree) (c : Cancellation) (paced : Bool) : Transfer :=
  { tree := t, watch := .start c, onEvent := c.onEvent, paced }

/-- Reports an event. The token may fire while it is being reported. -/
def report (s : Transfer) (e : Progress.Event) : Transfer :=
  { s with
    events := s.events ++ [e],
    watch := if s.onEvent = some s.events.length then s.watch.fire else s.watch }

/-- The clock by which events are spaced, in nanoseconds. -/
def eventTime (s : Transfer) : Nat :=
  if s.paced then s.watch.now * 1000000 else 0

end Transfer

namespace Download

/-- What stays the same while a download goes on. -/
structure Job where
  workplace : Workplace
  url : String
  destination : String
  stall : Duration
  deriving DecidableEq, Repr

/-- The stall time on the clock, which counts milliseconds; a begun one counts as a whole. -/
def Job.stallMillis (j : Job) : Nat :=
  (j.stall.toNanos + 999999) / 1000000

/-- A body that is being received. -/
structure Reception where
  transfer : Transfer
  staged : Staged
  expected : Option Nat
  tracker : Progress.Tracker
  received : Nat := 0
  closing : Closing := {}
  deriving DecidableEq, Repr

/-- Either the body goes on, or the download has ended. -/
inductive Turn where
  | go (r : Reception)
  | stop (s : Transfer) (e : Ending)
  deriving DecidableEq, Repr

def interrupted (j : Job) : Interruption → Ending
  | .cancelled => .cancelled
  | .stalled => .failed (.transport (.stalled j.stall))

namespace Reception

/-- Ends the download without an installed file. -/
def abandon (r : Reception) (j : Job) (e : Ending) : Transfer × Ending :=
  ({ r.transfer with tree := r.staged.discard r.transfer.tree j.workplace }, e)

def stop (r : Reception) (j : Job) (e : Ending) : Turn :=
  let (s, e) := r.abandon j e
  .stop s e

def setWatch (r : Reception) (w : Watch) : Reception :=
  { r with transfer := { r.transfer with watch := w } }

/-- The start of a wait for the next chunk. -/
def await (r : Reception) (j : Job) : Turn :=
  if r.transfer.watch.fired then r.stop j .cancelled
  else .go (r.setWatch (r.transfer.watch.renew j.stallMillis))

/-- A failed operation on the staged file, which is named by its absolute path. -/
def fileFault (r : Reception) (j : Job) (action : String) (e : FileError) : AcquireError :=
  .file action (FilePath.join j.workplace.text r.staged.path) e

/-- Keeps a chunk and reports the progress that it makes. -/
def keep (r : Reception) (bytes : Bytes) : Reception :=
  let s := { r.transfer with tree := r.staged.write r.transfer.tree bytes }
  let received := r.received + bytes.length
  let (tracker, event) := r.tracker.advance s.eventTime received
  { r with transfer := (event.map s.report).getD s, tracker, received }

/-- Keeps what of a chunk comes into the file before a write fails. -/
def keepPart (r : Reception) (kept : Bytes) : Reception :=
  { r with transfer := { r.transfer with tree := r.staged.write r.transfer.tree kept } }

def take (r : Reception) (j : Job) : Step → Turn
  | .chunk bytes => (r.keep bytes).await j
  | .unwritten kept e => (r.keepPart kept).stop j (.failed (r.fileFault j "write to" e))
  | .fail error => r.stop j (.failed (.transport error))
  | .wait millis =>
    match r.transfer.watch.pass millis with
    | (w, none) => .go (r.setWatch w)
    | (w, some i) => (r.setWatch w).stop j (interrupted j i)
  | .hang =>
    let (w, i) := r.transfer.watch.hang
    (r.setWatch w).stop j (interrupted j i)
  | .cancel => .go (r.setWatch r.transfer.watch.fire)
  | .change c =>
    .go { r with
      transfer := { r.transfer with tree := r.transfer.tree.apply j.workplace.key c } }

def lengthFault (expected received : Nat) : AcquireError :=
  .transport (.body ("expected " ++ toString expected ++ " bytes, received " ++ toString received))

/-- What speaks against installing the body: it has another length than announced, or its file
cannot be closed. -/
def fault? (r : Reception) (j : Job) : Option AcquireError :=
  match r.expected.filter (· != r.received) with
  | some n => some (lengthFault n r.received)
  | none => r.closing.fault?.map fun (action, e) => r.fileFault j action e

/-- The end of the body: if nothing speaks against it, the body is installed. -/
def finish (r : Reception) (j : Job) : Transfer × Ending :=
  match r.fault? j with
  | some e => r.abandon j (.failed e)
  | none =>
    let (tracker, event) := r.tracker.finish r.received
    let r := { r with transfer := (event.map r.transfer.report).getD r.transfer, tracker }
    match r.staged.commit r.transfer.tree j.workplace j.destination with
    | .ok t => ({ r.transfer with tree := t }, .completed r.received)
    | .error e => r.abandon j (.failed (.file "move download to" j.destination e))

/-- Takes the steps one after another. After the last one the body ends. -/
def run (j : Job) : Reception → List Step → Transfer × Ending
  | r, [] => r.finish j
  | r, s :: rest =>
    match r.take j s with
    | .go r' => run j r' rest
    | .stop s e => (s, e)

end Reception

def fetch (j : Job) (response : Response) (s : Transfer) : Transfer × Option Ending :=
  let s := { s with
    requests := s.requests ++ [j.url], watch := s.watch.renew j.stallMillis }
  match s.watch.pass response.delay with
  | (w, some i) => ({ s with watch := w }, some (interrupted j i))
  | (w, none) =>
    let w := if response.cancels then w.fire else w
    match response.answer with
    | .body => ({ s with watch := w }, none)
    | .fail error => ({ s with watch := w }, some (.failed (.transport error)))
    | .hang =>
      let (w, i) := w.hang
      ({ s with watch := w }, some (interrupted j i))

/-- Receives a body into a staged file beside the destination. -/
def receive (j : Job) (response : Response) (dir : String) (s : Transfer) : Transfer × Ending :=
  match Staged.create s.tree j.workplace dir with
  | .error e => (s, .failed (.file "create temporary file in" dir e))
  | .ok (t, staged) =>
    let r : Reception :=
      { transfer := { s with tree := t }, staged, expected := response.length,
        tracker := .start response.length, closing := response.closing }
    match r.await j with
    | .go r => r.run j response.steps
    | .stop s e => (s, e)

def run (j : Job) (response : Response) (s : Transfer) : Transfer × Ending :=
  match FilePath.parent? j.destination with
  | none => (s, .failed (.file "resolve the directory of" j.destination .noParent))
  | some dir =>
    if s.watch.fired then (s, .cancelled)
    else
      match fetch j response s with
      | (s, some e) => (s, e)
      | (s, none) => receive j response dir s

end Download

end ServerLauncher
