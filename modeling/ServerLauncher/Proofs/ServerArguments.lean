import ServerLauncher.Proofs.Outcomes
import ServerLauncher.Proofs.Scanning

/-!
Arguments of the server. What stands behind the separator is not looked at: it changes no setting of
the command line in front of it, and the server is started with just these arguments, or with the
usual one if there are none.
-/

namespace ServerLauncher.Cli

namespace Level

variable {l l' : Level} {args : List String} {next : Option (String × List String)}

/-- Arguments behind a separator are added to a level that has been read without them. -/
theorem Yields.separated (h : Yields .run l args l' next) (hsep : "--" ∉ args)
    (hnone : l'.args = []) (xs : List String) :
    Yields .run l (args ++ "--" :: xs) { l' with args := xs } none := by
  obtain ⟨m, hscan, hsettle⟩ := h
  obtain rfl : next = none := next_eq_none (by decide) hscan
  have hseparated : Yields .run m ("--" :: xs) { l' with args := xs } none := by
    refine yields_separator.2 ⟨rfl, Or.inr rfl, l', hsettle, ?_⟩
    split
    · rename_i hxs
      rw [hxs, ← hnone]
    · rfl
  unfold Yields
  rw [scan_append_of_none hsep hscan]
  exact hseparated

end Level

theorem run_of_commandOf {p : Place} {l : Level} {args : List String}
    (h : commandOf p l = .run args) : p = .run ∧ l.args = args := by
  cases p with
  | run => exact ⟨rfl, Command.run.inj h⟩
  | top => cases h
  | ensure => cases h
  | paths => cases h

/-- A command line that runs the server without arguments takes any behind a separator. -/
theorem parse_separated {env : Environment} {args : List String} {i : Invocation}
    (hparse : parse env args = .ok i) (hrun : i.command = .run []) (hsep : "--" ∉ args)
    (xs : List String) :
    parse env (args ++ "--" :: xs) = .ok { i with command := .run xs } := by
  obtain ⟨top, name, rest, p, level, next, inner, outer, ⟨m, hscan, htop⟩, hp, hlevel, hinner,
    houter, rfl⟩ := parse_eq_ok_iff.1 hparse
  obtain ⟨rfl, hnone⟩ := run_of_commandOf hrun
  have hrest : "--" ∉ rest := by
    obtain ⟨before, rfl, -, -⟩ := Level.exists_before_command hscan
    intro hmem
    exact hsep (by simp [hmem])
  have htop' : Level.Yields .top { } (args ++ "--" :: xs) top (some (name, rest ++ "--" :: xs)) :=
    ⟨m, Level.scan_append_of_command hscan _, htop⟩
  have hinner' : Settings.complete env { level with args := xs } = .ok inner := hinner
  exact parse_eq_ok_iff.2 ⟨top, name, rest ++ "--" :: xs, .run, { level with args := xs }, none,
    inner, outer, htop', hp, hlevel.separated hrest hnone xs, hinner', houter, rfl⟩

namespace Scene

variable {s : Scene} {o : Outside} {t : Tree} {c : Context} {xs : List String}

theorem started_run {command : ServerCommand}
    (h : command ∈ (s.carryOut o c t (.run xs)).2.started) :
    ∃ path, command = serverCommand path xs := by
  by_cases hkilled : wasKilled (s.report o c t) = true
  · simp only [carryOut, acquire, hkilled, if_true] at h
    cases h
  · have hgoes : wasKilled (s.report o c t) = false := by simpa using hkilled
    by_cases hpath : ∃ path, Returned (s.report o c t) path
    · obtain ⟨path, hreturned⟩ := hpath
      have hstarted : command ∈ (s.serve o xs (s.report o c t).transfer.watch
          (s.report o c t).transfer.tree path).2.started := by
        rw [carryOut_run_of_returned xs hgoes hreturned] at h
        exact h
      rw [started_serve] at hstarted
      split at hstarted
      · cases hstarted
      · exact ⟨path, List.mem_singleton.1 hstarted⟩
    · rw [carryOut_run_eq_ensure xs hgoes fun path hreturned => hpath ⟨path, hreturned⟩,
        started_ensure] at h
      cases h

end Scene

/-- The server's own arguments leave all settings as they are, and they reach the server unchanged;
the usual argument takes their place exactly if there are none. Whatever the command line starts is
given these arguments, and where a server is found that can be started, it is started so. -/
theorem arguments_pass_verbatim {env : Environment} {os os' : List String} {i : Invocation}
    (hparse : parse env (os ++ "run" :: os') = .ok i) (hrun : i.command = .run [])
    (hsep : "--" ∉ os ++ os') (xs : List String) :
    parse env (os ++ "run" :: os' ++ "--" :: xs) = .ok { i with command := .run xs } ∧
      (∀ path, (serverCommand path xs).program = path ∧
        (xs ≠ [] → (serverCommand path xs).args = xs) ∧
        ((serverCommand path xs).args = ["--stdio"] ∧ xs ≠ ["--stdio"] ↔ xs = [])) ∧
      ∀ (s : Scene) (o : Outside) (t t' : Tree) (c : Context), (s.settled t).env = env →
        Context.prepare (s.settled t) t i = (t', .ok c) →
        ∀ shown, (s.launch o t (os ++ "run" :: os' ++ "--" :: xs)).2 = shown →
        (∀ command ∈ shown.started, command.args = if xs = [] then ["--stdio"] else xs) ∧
        ∀ r, (s.settled t).report o c t' = r → Scene.wasKilled r = false →
        ∀ path, Returned r path →
        ∀ command : ServerCommand,
          command = ⟨path, if xs = [] then ["--stdio"] else xs, [("RUST_LOG", "warn")]⟩ →
          ∀ p, o.start (s.settled t) command r.transfer.tree = .ok p →
            shown.started = [command] := by
  have hsep' : "--" ∉ os ++ "run" :: os' := by
    simpa using hsep
  have hlonger := parse_separated hparse hrun hsep' xs
  refine ⟨hlonger, fun path => ⟨rfl, fun hxs => if_neg hxs, ?_⟩, ?_⟩
  · constructor
    · rintro ⟨hargs, hne⟩
      by_cases hxs : xs = []
      · exact hxs
      · exact absurd ((if_neg hxs).symm.trans hargs) hne
    · rintro rfl
      exact ⟨rfl, by simp⟩
  · rintro s o t t' c rfl hprepare shown hshown
    have hprepare' : Context.prepare (s.settled t) t { i with command := .run xs } = (t', .ok c) :=
      hprepare
    rw [Scene.launch_of_parsed o hlonger, Scene.dispatch_of_prepared hprepare'] at hshown
    constructor
    · intro command hcommand
      rw [← hshown] at hcommand
      obtain ⟨path, rfl⟩ := Scene.started_run hcommand
      rfl
    · rintro r rfl hkilled path hpath command rfl p hp
      have hcarried := Scene.carryOut_run_of_returned xs hkilled hpath
      have hstarted : shown.started = ((s.settled t).serve o xs
          ((s.settled t).report o c t').transfer.watch
          ((s.settled t).report o c t').transfer.tree path).2.started := by
        rw [← hshown, hcarried]
        rfl
      have hstart : o.start (s.settled t) (serverCommand path xs)
          ((s.settled t).report o c t').transfer.tree = .ok p := hp
      rw [hstarted, Scene.started_serve, hstart]
      rfl

/-- Words that look like options, commands and separators are arguments of the server like any
others. -/
theorem lookalikes_pass_verbatim :
    parse [] (["-q", "--tag", "v1"] ++ "run" :: ["--log-file=l"]) =
        .ok ⟨none, "v1", none, some "l", true, .run []⟩ ∧
      "--" ∉ ["-q", "--tag", "v1"] ++ ["--log-file=l"] ∧
      parse [] (["-q", "--tag", "v1"] ++ "run" :: ["--log-file=l"] ++
          "--" :: ["--", "-q", "--tag", "--help", "ensure", ""]) =
        .ok ⟨none, "v1", none, some "l", true,
          .run ["--", "-q", "--tag", "--help", "ensure", ""]⟩ := by
  have hparse : parse [] (["-q", "--tag", "v1"] ++ "run" :: ["--log-file=l"]) =
      .ok ⟨none, "v1", none, some "l", true, .run []⟩ :=
    Tree.toOption_eq_some_iff.1 (by decide +kernel)
  have hsep : "--" ∉ ["-q", "--tag", "v1"] ++ ["--log-file=l"] := by decide
  exact ⟨hparse, hsep, (arguments_pass_verbatim hparse rfl hsep _).1⟩

end ServerLauncher.Cli
