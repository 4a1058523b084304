import ServerLauncher.Proofs.Isolation
import ServerLauncher.Proofs.LooseReading
import ServerLauncher.Proofs.Serving

/-!
What a command shows in the end. The path of a server is printed exactly if there is one to print; a
cancelled acquisition and a failure leave the output empty, and a failure is told with its causes
and ends with the code of its class. A server is started only where its path would be printed, and
in all other cases the command that would start it does what the printing command does.
-/

namespace ServerLauncher.Cli

theorem Showing.output_print {path path' : String} (before : Bytes)
    (h : ((print path).after before).output = .ofText (path' ++ "\n")) : path = path' := by
  have htext := congrArg String.toList (Bytes.ofText_injective h)
  simp only [String.toList_append, List.append_cancel_right_eq] at htext
  exact String.toList_inj.1 htext

/-- An acquisition has returned the path of a server. -/
def Returned (r : Report) (path : String) : Prop :=
  r.result = .ok (.cached path) ∨ r.result = .ok (.downloaded path)

theorem outcomeOf_of_returned {r : Report} {path : String} (h : Returned r path) :
    outcomeOf r.result = .ok (some path) := by
  rcases h with h | h <;> rw [h] <;> rfl

theorem report_cases (r : Report) :
    (∃ e, r.result = .error e) ∨ r.result = .ok .cancelled ∨ ∃ path, Returned r path := by
  cases h : r.result with
  | error e => exact Or.inl ⟨e, rfl⟩
  | ok acquisition =>
    cases acquisition with
    | cached path => exact Or.inr (Or.inr ⟨path, Or.inl h⟩)
    | downloaded path => exact Or.inr (Or.inr ⟨path, Or.inr h⟩)
    | cancelled => exact Or.inr (Or.inl rfl)

namespace Context

/-- A fault of the preparation, none having been found before it. The storage root comes first, then
the tag, the log file and the settings of the acquisition. -/
def IsFirstFault (s : Scene) (t : Tree) (i : Invocation) (f : Failure) : Prop :=
  rootOf s t i = .error f ∨
    ∃ root, rootOf s t i = .ok root ∧
      (tagOf i = .error f ∨
        ∃ tag, tagOf i = .ok tag ∧
          (openLog t s.workplace.key i.logFile = .error f ∨
            ∃ opened e, openLog t s.workplace.key i.logFile = .ok opened ∧
              Network.check (configOf i) = .error e ∧ f = .bare (.acquire e)))

variable {s : Scene} {t t' : Tree} {i : Invocation} {f : Failure} {c : Context}

theorem prepare_eq_error_iff : (prepare s t i).2 = .error f ↔ IsFirstFault s t i f := by
  unfold prepare IsFirstFault
  cases rootOf s t i with
  | error f' => simp
  | ok root =>
    cases tagOf i with
    | error f' => simp
    | ok tag =>
      cases openLog t s.workplace.key i.logFile with
      | error f' => simp
      | ok opened =>
        cases hcheck : Network.check (configOf i) with
        | error e => simp [hcheck, eq_comm]
        | ok _ => simp [hcheck]

/-- What a ready command holds: the settings of the command line, when they have passed the checks.
-/
structure IsReady (s : Scene) (t : Tree) (i : Invocation) (t' : Tree) (c : Context) : Prop where
  root : rootOf s t i = .ok c.root
  tag : tagOf i = .ok c.tag
  log : openLog t s.workplace.key i.logFile = .ok (t', c.logFile)
  settings : Network.check (configOf i) = .ok ()
  acquirer : c.acquirer =
    { config := configOf i, host := HostOs.ofText? s.os, os := s.os, workplace := s.workplace }

theorem isReady_of_prepared (h : prepare s t i = (t', .ok c)) : IsReady s t i t' c := by
  unfold prepare at h
  split at h
  · cases h
  · cases h
  · rename_i root tag hroot htag
    split at h
    · cases h
    · rename_i opened log hlog
      dsimp only at h
      split at h
      · cases h
      · rename_i hcheck
        obtain ⟨rfl, hc⟩ := Prod.mk.inj h
        obtain rfl := Except.ok.inj hc
        exact ⟨hroot, htag, hlog, hcheck, rfl⟩

end Context

namespace Scene

variable {s : Scene} {o : Outside} {t t' : Tree} {c : Context} {i : Invocation}
  {words : List String}

theorem launch_of_parsed (o : Outside) (h : parse (s.settled t).env words = .ok i) :
    s.launch o t words = (s.settled t).dispatch o t i := by
  simp only [launch, h]

theorem dispatch_of_refused {f : Failure} (h : Context.prepare s t i = (t', .error f)) :
    s.dispatch o t i = (t', .fail o.errors f) := by
  simp only [dispatch, h]

theorem dispatch_of_prepared (h : Context.prepare s t i = (t', .ok c)) :
    s.dispatch o t i = s.carryOut o c t' i.command := by
  simp only [dispatch, h]

theorem acquire_eq {finish : Watch → Tree → Except Failure (Option String) → Tree × Showing}
    (h : wasKilled (s.report o c t) = false) :
    s.acquire o c t finish =
      let r := s.report o c t
      let went := finish r.transfer.watch r.transfer.tree (outcomeOf r.result)
      (went.1, went.2.after (o.trace s r)) := by
  simp only [acquire, h, Bool.false_eq_true, if_false]

/-- Without a path to print, the command that would start a server only prints. -/
theorem carryOut_run_eq_ensure (args : List String) (hkilled : wasKilled (s.report o c t) = false)
    (h : ∀ path, ¬Returned (s.report o c t) path) :
    s.carryOut o c t (.run args) = s.carryOut o c t .ensure := by
  simp only [carryOut, acquire_eq hkilled]
  rcases report_cases (s.report o c t) with ⟨e, he⟩ | hcancelled | ⟨path, hpath⟩
  · rw [he]
    rfl
  · rw [hcancelled]
    rfl
  · exact absurd hpath (h path)

/-- Both commands tell of a failed acquisition in the same way, and start nothing. -/
theorem tellsOf_carryOut {command : Command} {e : AcquireError} (hK : o.errors.Lawful)
    (hkilled : wasKilled (s.report o c t) = false) (hcommand : ∀ json, command ≠ .paths json)
    (h : (s.report o c t).result = .error e) :
    (s.carryOut o c t command).2.TellsOf (.bare (.acquire e)) ∧
      (s.carryOut o c t command).2.started = [] := by
  cases command with
  | ensure =>
    simp only [carryOut, acquire_eq hkilled, h]
    exact ⟨(Showing.tellsOf_fail hK _).after _, rfl⟩
  | run args =>
    simp only [carryOut, acquire_eq hkilled, h]
    exact ⟨(Showing.tellsOf_fail hK _).after _, rfl⟩
  | paths json => exact absurd rfl (hcommand json)

theorem cancelled_carryOut {command : Command}
    (hkilled : wasKilled (s.report o c t) = false) (hcommand : ∀ json, command ≠ .paths json)
    (h : (s.report o c t).result = .ok .cancelled) :
    (s.carryOut o c t command).2.output = [] ∧ (s.carryOut o c t command).2.code = some 130 ∧
      (s.carryOut o c t command).2.started = [] := by
  cases command with
  | ensure =>
    simp only [carryOut, acquire_eq hkilled, h]
    exact ⟨rfl, rfl, rfl⟩
  | run args =>
    simp only [carryOut, acquire_eq hkilled, h]
    exact ⟨rfl, rfl, rfl⟩
  | paths json => exact absurd rfl (hcommand json)

theorem carryOut_ensure_of_returned {path : String}
    (hkilled : wasKilled (s.report o c t) = false) (h : Returned (s.report o c t) path) :
    (s.carryOut o c t .ensure).2 =
      (Showing.print path).after (o.trace s (s.report o c t)) := by
  simp only [carryOut, acquire_eq hkilled, outcomeOf_of_returned h]
  rfl

theorem started_ensure : (s.carryOut o c t .ensure).2.started = [] := by
  simp only [carryOut, acquire]
  split
  · rfl
  · cases outcomeOf (s.report o c t).result with
    | error f => rfl
    | ok path => cases path <;> rfl

theorem carryOut_run_of_returned {path : String} (args : List String)
    (hkilled : wasKilled (s.report o c t) = false) (h : Returned (s.report o c t) path) :
    (s.carryOut o c t (.run args)).2 =
      (s.serve o args (s.report o c t).transfer.watch (s.report o c t).transfer.tree path).2.after
        (o.trace s (s.report o c t)) := by
  simp only [carryOut, acquire_eq hkilled, outcomeOf_of_returned h]
  rfl

/-- Success is told only of a path that was returned. -/
theorem returned_of_code_zero (hK : o.errors.Lawful) (hkilled : wasKilled (s.report o c t) = false)
    (h : (s.carryOut o c t .ensure).2.code = some 0) :
    ∃ path, Returned (s.report o c t) path := by
  have hcommand : ∀ json, Command.ensure ≠ .paths json := fun _ => by simp
  rcases report_cases (s.report o c t) with ⟨e, he⟩ | hcancelled | hpath
  · obtain ⟨htold, -⟩ := tellsOf_carryOut hK hkilled hcommand he
    exact absurd h htold.code_ne_zero
  · obtain ⟨-, hcode, -⟩ := cancelled_carryOut hkilled hcommand hcancelled
    rw [hcode] at h
    cases h
  · exact hpath

/-- What the printing command shows is decided by the path that was returned, and decides it. -/
theorem returned_iff_printed (hK : o.errors.Lawful) (hkilled : wasKilled (s.report o c t) = false)
    (path : String) :
    Returned (s.report o c t) path ↔
      (s.carryOut o c t .ensure).2.code = some 0 ∧
        (s.carryOut o c t .ensure).2.output = .ofText (path ++ "\n") := by
  constructor
  · intro h
    rw [carryOut_ensure_of_returned hkilled h]
    exact ⟨rfl, rfl⟩
  · rintro ⟨hcode, houtput⟩
    obtain ⟨path', h⟩ := returned_of_code_zero hK hkilled hcode
    rw [carryOut_ensure_of_returned hkilled h] at houtput
    rwa [← Showing.output_print _ houtput]

theorem run_tells_of_server (hK : o.errors.Lawful) {path : String} (args : List String)
    (hkilled : wasKilled (s.report o c t) = false) (h : Returned (s.report o c t) path) :
    (∀ e, o.start s (serverCommand path args) (s.report o c t).transfer.tree = .error e →
      (s.carryOut o c t (.run args)).2.TellsOf
          (.within ("Failed to start " ++ path) (.bare (.file e))) ∧
        (s.carryOut o c t (.run args)).2.started = []) ∧
    ∀ p, o.start s (serverCommand path args) (s.report o c t).transfer.tree = .ok p →
      (s.carryOut o c t (.run args)).2.Serves (serverCommand path args) p
        (untilFired (s.report o c t).transfer.watch) := by
  rw [carryOut_run_of_returned args hkilled h]
  constructor
  · intro e he
    rw [serve_of_refused he]
    exact ⟨((Showing.tellsOf_fail hK _).after _).after _, rfl⟩
  · intro p hp
    exact serves_serve hK hp _

/-- What is shown of a command that needs a server, as far as the tried file does not kill the
launcher. A failed start and a failed or cancelled acquisition are told by both commands alike, and
nothing is started then. A path that was returned is printed by the one command; the other starts
the server at this path, with its own arguments or the usual one, and shows what comes of it. -/
theorem launch_tells_outcome (s : Scene) (o : Outside) (hK : o.errors.Lawful) (t : Tree)
    {words : List String} {i : Invocation} (hparse : parse (s.settled t).env words = .ok i)
    (hcommand : ∀ json, i.command ≠ .paths json) :
    (∀ t' f, Context.prepare (s.settled t) t i = (t', .error f) →
      Context.IsFirstFault (s.settled t) t i f ∧
        (s.launch o t words).1 = t' ∧ (s.launch o t words).2.TellsOf f ∧
        (s.launch o t words).2.started = [] ∧
        ∀ words', parse (s.settled t).env words' = .ok { i with command := .ensure } →
          s.launch o t words = s.launch o t words') ∧
    ∀ t' c, Context.prepare (s.settled t) t i = (t', .ok c) →
      ∀ r, (s.settled t).report o c t' = r → wasKilled r = false →
        (∀ e, r.result = .error e →
          (s.launch o t words).2.TellsOf (.bare (.acquire e)) ∧
            (s.launch o t words).2.started = []) ∧
        (r.result = .ok .cancelled →
          (s.launch o t words).2.output = [] ∧ (s.launch o t words).2.code = some 130 ∧
            (s.launch o t words).2.started = []) ∧
        (i.command = .ensure →
          (s.launch o t words).2.started = [] ∧
          ((s.launch o t words).2.code = some 0 ↔ ∃ path, Returned r path) ∧
          ∀ path, Returned r path ↔
            (s.launch o t words).2.code = some 0 ∧
              (s.launch o t words).2.output = .ofText (path ++ "\n")) ∧
        ∀ args, i.command = .run args →
          (∀ path, Returned r path →
            ∀ command : ServerCommand,
              command = ⟨path, if args = [] then ["--stdio"] else args, [("RUST_LOG", "warn")]⟩ →
              (∀ e, o.start (s.settled t) command r.transfer.tree = .error e →
                (s.launch o t words).2.TellsOf
                    (.within ("Failed to start " ++ path) (.bare (.file e))) ∧
                  (s.launch o t words).2.started = []) ∧
              ∀ p, o.start (s.settled t) command r.transfer.tree = .ok p →
                (s.launch o t words).2.Serves command p (untilFired r.transfer.watch)) ∧
          ((∀ path, ¬Returned r path) →
            (s.launch o t words).2.started = [] ∧
            ∀ words', parse (s.settled t).env words' = .ok { i with command := .ensure } →
              s.launch o t words = s.launch o t words') := by
  rw [launch_of_parsed o hparse]
  constructor
  · intro t' f hprepare
    have hfault : (Context.prepare (s.settled t) t i).2 = .error f := by
      rw [hprepare]
    have hsame : Context.prepare (s.settled t) t { i with command := .ensure } = (t', .error f) :=
      hprepare
    refine ⟨Context.prepare_eq_error_iff.1 hfault, ?_⟩
    rw [dispatch_of_refused hprepare]
    refine ⟨rfl, Showing.tellsOf_fail hK f, rfl, ?_⟩
    intro words' hparse'
    rw [launch_of_parsed o hparse', dispatch_of_refused hsame]
  · rintro t' c hprepare r rfl hkilled
    have hsame : Context.prepare (s.settled t) t { i with command := .ensure } = (t', .ok c) :=
      hprepare
    rw [dispatch_of_prepared hprepare]
    refine ⟨?_, ?_, ?_, ?_⟩
    · intro e he
      exact tellsOf_carryOut hK hkilled hcommand he
    · intro h
      exact cancelled_carryOut hkilled hcommand h
    · intro hensure
      rw [hensure]
      refine ⟨started_ensure, ⟨returned_of_code_zero hK hkilled, ?_⟩,
        returned_iff_printed hK hkilled⟩
      rintro ⟨path, h⟩
      exact ((returned_iff_printed hK hkilled path).1 h).1
    · intro args hrun
      rw [hrun]
      constructor
      · rintro path h command rfl
        exact run_tells_of_server hK args hkilled h
      · intro h
        rw [carryOut_run_eq_ensure args hkilled h]
        refine ⟨started_ensure, ?_⟩
        intro words' hparse'
        rw [launch_of_parsed o hparse', dispatch_of_prepared hsame]

def quietScene : Scene := ⟨⟨[], "/"⟩, [], "linux", fun _ => none⟩

/-- Nothing that is installed runs, and nothing can be reached or started. -/
def barrenOutside : Outside where
  errors := .plain
  probe _ _ := .always .missing
  respond := Network.respond
  start _ _ _ := .error (.os .noEntry)
  note _ _ t := t
  trace _ _ := []
  startTrace _ _ := []

def servedOutside : Outside :=
  { barrenOutside with
    respond := fun _ => { length := some 3, steps := [.chunk [1], .chunk [2, 3]] } }

def ensureWords : List String :=
  ["--tag=v1", "ensure", "--storage-root", "root", "--release-url", "http://[::1]/"]

def ensureInvocation : Invocation :=
  ⟨some (.ofText "root"), "v1", some "http://[::1]/", none, false, .ensure⟩

/-- The download that the settings lead to. -/
theorem served_downloads :
    (match Context.prepare (quietScene.settled ⟨[], []⟩) ⟨[], []⟩ ensureInvocation with
      | (t', .ok c) =>
        let r := (quietScene.settled ⟨[], []⟩).report servedOutside c t'
        !wasKilled r && r.result.toOption == some (.downloaded "root/server/prosemd-lsp-v1")
      | _ => false) = true := by
  decide +kernel

/-- A server that had to be downloaded is printed. -/
theorem downloaded_server_printed :
    servedOutside.errors.Lawful ∧
      parse (quietScene.settled ⟨[], []⟩).env ensureWords = .ok ensureInvocation ∧
      (∀ json, ensureInvocation.command ≠ .paths json) ∧
      (quietScene.launch servedOutside ⟨[], []⟩ ensureWords).2.code = some 0 ∧
      (quietScene.launch servedOutside ⟨[], []⟩ ensureWords).2.output =
        .ofText ("root/server/prosemd-lsp-v1" ++ "\n") := by
  have hparse : parse (quietScene.settled ⟨[], []⟩).env ensureWords = .ok ensureInvocation :=
    Tree.toOption_eq_some_iff.1 (by decide +kernel)
  have hcommand : ∀ json, ensureInvocation.command ≠ .paths json := fun json h => by cases h
  have hK : servedOutside.errors.Lawful := ErrorKit.plain_lawful
  refine ⟨hK, hparse, hcommand, ?_⟩
  obtain ⟨-, htold⟩ := launch_tells_outcome quietScene servedOutside hK ⟨[], []⟩ hparse hcommand
  have hdownload := served_downloads
  cases hprepare : Context.prepare (quietScene.settled ⟨[], []⟩) ⟨[], []⟩ ensureInvocation with
  | mk t' prepared =>
    rw [hprepare] at hdownload
    cases prepared with
    | error f => cases hdownload
    | ok c =>
      obtain ⟨hkilled, hresult⟩ := (Bool.and_eq_true _ _).mp hdownload
      obtain ⟨-, -, hensure, -⟩ := htold t' c hprepare _ rfl (by simpa using hkilled)
      obtain ⟨-, -, hprinted⟩ := hensure rfl
      exact (hprinted _).1 (Or.inr (Tree.toOption_eq_some_iff.1 (by simpa using hresult)))

end Scene

end ServerLauncher.Cli
