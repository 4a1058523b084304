import ServerLauncher.Cli.Session
import ServerLauncher.Proofs.Causes

/-!
What is shown of a failure, and of a server. A failure is told with all its causes at the end of the
error stream, and by the code of its class. A server that is over passes its exit code on, unless
its launcher was interrupted before: then it is killed, and the code is the one of a cancellation.
-/

namespace ServerLauncher.Cli

namespace Showing

/-- What tells of a failure: no output, the error with all its causes at the end of the error
stream, and the code of its class. -/
structure TellsOf (shown : Showing) (f : Failure) : Prop where
  output : shown.output = []
  errors : Bytes.ofText ("Error: " ++ ": ".intercalate f.chain ++ "\n") <:+ shown.errors
  code : shown.code = some (match f.cause with
    | .acquire (.invalidTag ..) => 64
    | .acquire (.unsupportedPlatform _) => 69
    | .acquire (.file ..) => 74
    | .acquire (.transport _) => 75
    | .acquire (.config _) => 78
    | .path _ => 78
    | _ => 1)

variable {K : ErrorKit}

theorem code_fail (hK : K.Lawful) (f : Failure) :
    (fail K f).code = some (match f.cause with
      | .acquire error => error.exitCode
      | .path _ => 78
      | _ => 1) := by
  refine congrArg some ((f.exitCode_build hK).trans ((hK.exitCode_new f.cause).trans ?_))
  cases f.cause <;> rfl

theorem errors_fail (hK : K.Lawful) (f : Failure) :
    (fail K f).errors = Bytes.ofText ("Error: " ++ ": ".intercalate f.chain ++ "\n") := by
  rw [← f.print_build hK]
  rfl

theorem errors_fail_lost (hK : K.Lawful) (e : FileError) :
    (fail K (.within "Failed to wait for the server process" (.bare (.file e)))).errors =
      Bytes.ofText ("Error: Failed to wait for the server process: " ++ e.text ++ "\n") := by
  have htext : "Error: " ++ ": ".intercalate ["Failed to wait for the server process", e.text] =
      "Error: Failed to wait for the server process: " ++ e.text := String.append_assoc.symm
  exact (errors_fail hK _).trans (congrArg (fun s : String => Bytes.ofText (s ++ "\n")) htext)

theorem TellsOf.after {shown : Showing} {f : Failure} (h : shown.TellsOf f) (before : Bytes) :
    (shown.after before).TellsOf f :=
  ⟨h.output, h.errors.trans (List.suffix_append before _), h.code⟩

theorem tellsOf_fail (hK : K.Lawful) (f : Failure) : (fail K f).TellsOf f where
  output := rfl
  errors := ⟨[], (errors_fail hK f).symm⟩
  code := by
    rw [code_fail hK]
    cases f.cause with
    | acquire error => cases error <;> rfl
    | _ => rfl

theorem TellsOf.code_ne_zero {shown : Showing} {f : Failure} (h : shown.TellsOf f) :
    shown.code ≠ some 0 := by
  rw [h.code]
  cases f.cause with
  | acquire error => cases error <;> simp
  | _ => simp

end Showing

namespace Process

variable {p : Process} {fires : Option Nat} {n : Nat}

/-- The server is over before its launcher is interrupted, and is not killed before that. -/
structure EndsAt (p : Process) (fires : Option Nat) (n : Nat) (exit : Exit) : Prop where
  ended : p.ended = some (n, exit)
  uncut : ∀ m, p.cutTime fires = some m → n < m
  unkilled : ∀ m, p.signalTime false = some m → n ≤ m

/-- The token fires while the server runs, and the launcher is not killed before that. -/
structure IsCutAt (p : Process) (fires : Option Nat) (n : Nat) : Prop where
  cut : p.cutTime fires = some n
  running : ∀ m exit, p.ended = some (m, exit) → n < m
  unkilled : ∀ m, p.signalTime false = some m → n ≤ m

variable {tokenFirst : Bool} {exit : Exit}

theorem await_eq_firstEvent
    (h : ∀ d, p.signalTime false = some d →
      (p.cutTime fires).any (· ≤ d) = true ∨ p.ended.any (·.1 ≤ d) = true) :
    p.await fires tokenFirst = p.firstEvent fires tokenFirst := by
  unfold await
  cases hkill : p.signalTime false with
  | none => rfl
  | some d => exact if_pos ((Bool.or_eq_true _ _).mpr (h d hkill))

theorem await_of_endsAt (h : p.EndsAt fires n exit) : p.await fires tokenFirst = .ended n exit := by
  have hfirst : p.firstEvent fires tokenFirst = .ended n exit := by
    unfold firstEvent
    rw [h.ended]
    cases hcut : p.cutTime fires with
    | none => rfl
    | some c =>
      have hlate := h.uncut c hcut
      exact if_neg (by omega)
  rw [await_eq_firstEvent, hfirst]
  intro d hkill
  have hbefore := h.unkilled d hkill
  exact Or.inr (by simpa [h.ended] using hbefore)

theorem await_of_isCutAt (h : p.IsCutAt fires n) : p.await fires tokenFirst = .interrupted n := by
  have hfirst : p.firstEvent fires tokenFirst = .interrupted n := by
    unfold firstEvent
    rw [h.cut]
    cases hover : p.ended with
    | none => rfl
    | some last =>
      have hrunning := h.running last.1 last.2 hover
      exact if_pos (Or.inl hrunning)
  rw [await_eq_firstEvent, hfirst]
  intro d hkill
  have hbefore := h.unkilled d hkill
  exact Or.inl (by simpa [h.cut] using hbefore)

end Process

theorem Process.started_show (p : Process) (K : ErrorKit) (command : ServerCommand)
    (parting : Parting) : (p.show K command parting).2.started = [command] := by
  cases parting with
  | ended n exit => cases exit <;> rfl
  | _ => rfl

/-- What is shown of a server that has been started. It is over before the token fires, with an exit
code, by a signal, or in a way that cannot be told; or the token fires first, and the server is
killed. -/
structure Showing.Serves (shown : Showing) (command : ServerCommand) (p : Process)
    (fires : Option Nat) : Prop where
  started : shown.started = [command]
  code : ∀ n code, p.EndsAt fires n (.code code) →
    shown.code = some code ∧ shown.output = p.outputAt n ∧ shown.killed = false
  signal : ∀ n signal, p.EndsAt fires n (.signal signal) →
    shown.code = some (128 + signal) ∧ shown.output = p.outputAt n ∧ shown.killed = false
  lost : ∀ n e, p.EndsAt fires n (.lost e) →
    shown.code = some 1 ∧ shown.output = p.outputAt n ∧
      Bytes.ofText ("Error: Failed to wait for the server process: " ++ e.text ++ "\n") <:+
        shown.errors
  cut : ∀ n, p.IsCutAt fires n →
    shown.code = some 130 ∧ shown.output = p.outputAt n ∧ shown.killed = true

namespace Scene

variable {s : Scene} {o : Outside} {w : Watch} {t : Tree}

theorem serve_of_refused {path : String} {args : List String} {e : FileError}
    (h : o.start s (serverCommand path args) t = .error e) :
    (s.serve o args w t path).2 =
      (Showing.fail o.errors (.within ("Failed to start " ++ path) (.bare (.file e)))).after
        (o.startTrace s (serverCommand path args)) := by
  simp only [serve, h]

theorem serve_of_started {path : String} {args : List String} {p : Process}
    (h : o.start s (serverCommand path args) t = .ok p) :
    (s.serve o args w t path).2 =
      ((p.show o.errors (serverCommand path args)
        (p.await (untilFired w) o.tokenFirst)).2).after
          (o.startTrace s (serverCommand path args)) := by
  simp only [serve, h]

theorem serves_serve (hK : o.errors.Lawful) {path : String} {args : List String} {p : Process}
    (h : o.start s (serverCommand path args) t = .ok p) (before : Bytes) :
    ((s.serve o args w t path).2.after before).Serves (serverCommand path args) p
      (untilFired w) := by
  rw [serve_of_started h]
  refine ⟨?_, ?_, ?_, ?_, ?_⟩
  · exact p.started_show o.errors _ _
  · intro n code hend
    rw [Process.await_of_endsAt hend]
    exact ⟨rfl, rfl, rfl⟩
  · intro n signal hend
    rw [Process.await_of_endsAt hend]
    exact ⟨rfl, rfl, rfl⟩
  · intro n e hend
    rw [Process.await_of_endsAt hend]
    refine ⟨Showing.code_fail hK _, rfl, ?_⟩
    rw [← Showing.errors_fail_lost hK]
    exact (List.suffix_append (p.errorsAt n) _).trans
      ((List.suffix_append _ _).trans (List.suffix_append before _))
  · intro n hcut
    rw [Process.await_of_isCutAt hcut]
    exact ⟨rfl, rfl, rfl⟩

/-- Nothing is started but the server, and it is started if it can be. -/
theorem started_serve (s : Scene) (o : Outside) (args : List String) (w : Watch) (t : Tree)
    (path : String) :
    (s.serve o args w t path).2.started =
      match o.start s (serverCommand path args) t with
      | .error _ => []
      | .ok _ => [serverCommand path args] := by
  cases hstart : o.start s (serverCommand path args) t with
  | error e =>
    rw [serve_of_refused hstart]
    rfl
  | ok p =>
    rw [serve_of_started hstart]
    exact p.started_show o.errors _ _

end Scene

end ServerLauncher.Cli
