import ServerLauncher.Log

/-!
Several sinks that are sent the same messages. A message is delivered to one sink after another, and
a delivery leaves the sinks at all other places as they were. So each sink ends as if it had been the
only one, whatever the others are: a sink for lines has written the line of every message in turn,
and one that traces has received the messages themselves.
-/

namespace ServerLauncher.Log

variable (stampAt : Nat → String) (m : Message) (sinks : List Sink)

theorem getElem?_deliver (place i : Nat) :
    (deliver stampAt m sinks place)[i]? =
      if place = i then sinks[i]?.map (Sink.take (stampAt i) m) else sinks[i]? := by
  rw [deliver, List.getElem?_modify]
  by_cases hplace : place = i
  · subst hplace
    simp
  · simp [hplace]

/-- Deliveries to different places reach each of these once, in whatever order they are made. -/
theorem getElem?_deliveries {places : List Nat} (hnodup : places.Nodup) (i : Nat) :
    (places.foldl (deliver stampAt m) sinks)[i]? =
      if i ∈ places then sinks[i]?.map (Sink.take (stampAt i) m) else sinks[i]? := by
  induction places generalizing sinks with
  | nil => simp
  | cons place places ih =>
    obtain ⟨hfresh, hrest⟩ := List.nodup_cons.1 hnodup
    rw [List.foldl_cons, ih (deliver stampAt m sinks place) hrest, getElem?_deliver]
    by_cases hplace : place = i
    · subst hplace
      rw [if_neg hfresh, if_pos rfl, if_pos List.mem_cons_self]
    · have hmem : i ∈ place :: places ↔ i ∈ places := by
        rw [List.mem_cons, or_iff_right (Ne.symm hplace)]
      simp only [if_neg hplace, hmem]

theorem sendAt_eq :
    sendAt stampAt sinks m = sinks.mapIdx fun place sink => sink.take (stampAt place) m := by
  apply List.ext_getElem?
  intro i
  rw [sendAt, getElem?_deliveries stampAt m sinks List.nodup_range, List.getElem?_mapIdx]
  by_cases hi : i < sinks.length
  · rw [if_pos (List.mem_range.2 hi)]
  · rw [if_neg (mt List.mem_range.1 hi), List.getElem?_eq_none (Nat.le_of_not_lt hi)]
    rfl

example : send "12:00" [.failing, .line "", .trace []] ⟨.warn, "careful"⟩ =
    [.failing, .line "WARN [12:00]: careful\n", .trace [⟨.warn, "careful"⟩]] := by
  decide +kernel

/-- What becomes of the sink at a place that takes messages one after another. -/
def Sink.takeAll (place : Nat) (sent : List Sending) (sink : Sink) : Sink :=
  sent.foldl (fun sink s => sink.take (s.stampAt place) s.message) sink

theorem Sink.takeAll_cons (place : Nat) (s : Sending) (sent : List Sending) (sink : Sink) :
    sink.takeAll place (s :: sent) =
      (sink.take (s.stampAt place) s.message).takeAll place sent :=
  rfl

theorem sendAll_cons (s : Sending) (sent : List Sending) :
    sendAll sinks (s :: sent) = sendAll (sendAt s.stampAt sinks s.message) sent :=
  rfl

theorem sendAll_eq (sent : List Sending) :
    sendAll sinks sent = sinks.mapIdx fun place sink => sink.takeAll place sent := by
  induction sent generalizing sinks with
  | nil =>
    apply List.ext_getElem?
    intro i
    rw [List.getElem?_mapIdx]
    exact Option.map_id'.symm
  | cons s sent ih =>
    rw [sendAll_cons, ih, sendAt_eq, List.mapIdx_mapIdx]
    rfl

namespace Sink

variable (place : Nat) (sent : List Sending)

/-- The lines of messages, each with the time at which the sink at a place takes it. -/
def linesAt : String :=
  String.join (sent.map fun s => s.message.line (s.stampAt place))

theorem takeAll_line (text : String) :
    (line text).takeAll place sent = line (text ++ linesAt place sent) := by
  induction sent generalizing text with
  | nil => simp [takeAll, linesAt]
  | cons s sent ih =>
    rw [takeAll_cons, take, ih, linesAt, linesAt, List.map_cons, String.join_cons,
      String.append_assoc]

theorem takeAll_trace (ms : List Message) :
    (trace ms).takeAll place sent = trace (ms ++ sent.map Sending.message) := by
  induction sent generalizing ms with
  | nil => simp [takeAll]
  | cons s sent ih =>
    rw [takeAll_cons, take, ih, List.map_cons, List.append_assoc, List.singleton_append]

theorem takeAll_of_still {sink : Sink} (h : ∀ stamp m, sink.take stamp m = sink) :
    sink.takeAll place sent = sink := by
  induction sent with
  | nil => rfl
  | cons s sent ih => rw [takeAll_cons, h, ih]

end Sink

/-- A sending as it meets a sink that is the only one, and takes the message at the time at which
the sink at a place would. -/
def Sending.alone (place : Nat) (s : Sending) : Sending := ⟨s.message, fun _ => s.stampAt place⟩

theorem takeAll_alone (place : Nat) (sent : List Sending) (sink : Sink) :
    sink.takeAll 0 (sent.map (Sending.alone place)) = sink.takeAll place sent := by
  rw [Sink.takeAll, Sink.takeAll, List.foldl_map]
  rfl

/-- Whatever sinks stand before and after a sink, it ends as if it had been the only one. A sink for
lines has then written the lines of all messages, and one that traces has received all messages, in
their order; one that fails has still written nothing. -/
theorem taken_as_only_sink (before after : List Sink) (sink : Sink) (sent : List Sending) :
    ∃ ended, (sendAll (before ++ sink :: after) sent)[before.length]? = some ended ∧
      sendAll [sink] (sent.map (Sending.alone before.length)) = [ended] ∧
      match sink with
      | .line text => ended = .line (text ++ String.join (sent.map fun s =>
          (match s.message.level with
            | .info => "INFO"
            | .warn => "WARN"
            | .error => "ERROR") ++
              " [" ++ s.stampAt before.length ++ "]: " ++ s.message.text ++ "\n"))
      | .failing => ended = .failing
      | .trace ms => ended = .trace (ms ++ sent.map Sending.message)
      | .quiet => ended = .quiet := by
  refine ⟨sink.takeAll before.length sent, ?_, ?_, ?_⟩
  · rw [sendAll_eq, List.getElem?_mapIdx, List.getElem?_append_right (Nat.le_refl _), Nat.sub_self]
    rfl
  · rw [sendAll_eq, List.mapIdx_singleton, takeAll_alone]
  · cases sink with
    | line text =>
      have hline : ∀ (m : Message) (stamp : String), m.line stamp =
          (match m.level with
            | .info => "INFO"
            | .warn => "WARN"
            | .error => "ERROR") ++ " [" ++ stamp ++ "]: " ++ m.text ++ "\n" := by
        intro m stamp
        rw [Message.line]
        cases m.level <;> rfl
      dsimp only
      rw [Sink.takeAll_line, Sink.linesAt]
      simp only [hline]
    | failing => exact Sink.takeAll_of_still before.length sent fun _ _ => rfl
    | trace ms => exact Sink.takeAll_trace before.length sent ms
    | quiet => exact Sink.takeAll_of_still before.length sent fun _ _ => rfl

end ServerLauncher.Log
