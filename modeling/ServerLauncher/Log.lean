import ServerLauncher.Text.Basic

/-!
Log messages and the sinks that they are sent to. What happens at one sink does not concern the
others.
-/

namespace ServerLauncher

inductive Level where
  | info
  | warn
  | error
  deriving DecidableEq, Repr

def Level.label : Level → String
  | info => "INFO"
  | warn => "WARN"
  | error => "ERROR"

namespace Log

structure Message where
  level : Level
  text : String
  deriving DecidableEq, Repr

/-- The line of a message, with the time at which it was written. -/
def Message.line (m : Message) (stamp : String) : String :=
  m.level.label ++ " [" ++ stamp ++ "]: " ++ m.text ++ "\n"

def lines (stamp : String) (ms : List Message) : String :=
  String.join (ms.map (·.line stamp))

/-- A sink with what it has taken so far. A failing sink refuses every line. -/
inductive Sink where
  | line (written : String)
  | failing
  | trace (received : List Message)
  | quiet
  deriving DecidableEq, Repr

namespace Sink

def take (stamp : String) (m : Message) : Sink → Sink
  | line written => line (written ++ m.line stamp)
  | failing => failing
  | trace received => trace (received ++ [m])
  | quiet => quiet

def written? : Sink → Option String
  | line written => some written
  | failing => some ""
  | _ => none

def received : Sink → List Message
  | trace received => received
  | _ => []

end Sink

/-- The sink at a place takes a message, at the time when its turn comes. -/
def deliver (stampAt : Nat → String) (m : Message) (sinks : List Sink) (place : Nat) :
    List Sink :=
  sinks.modify place (Sink.take (stampAt place) m)

/-- Sends a message to one sink after another. -/
def sendAt (stampAt : Nat → String) (sinks : List Sink) (m : Message) : List Sink :=
  (List.range sinks.length).foldl (deliver stampAt m) sinks

/-- Sends a message to every sink at one time. -/
def send (stamp : String) (sinks : List Sink) (m : Message) : List Sink :=
  sendAt (fun _ => stamp) sinks m

/-- A message with the times at which the sinks take it. -/
structure Sending where
  message : Message
  stampAt : Nat → String

def sendAll (sinks : List Sink) (sent : List Sending) : List Sink :=
  sent.foldl (fun sinks s => sendAt s.stampAt sinks s.message) sinks

end Log

end ServerLauncher
