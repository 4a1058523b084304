import ServerLauncher.Proofs.Scanning

/-!
Where the settings of a command line come from. What is given wins over the environment, and that
over what is built in; of two levels the inner one goes first. A level looks into the environment
for all that it is not given itself, so a variable that cannot be read is a fault even if the other
level is given the setting.
-/

namespace ServerLauncher.Cli

/-- The variable is not set, or set to a text. -/
def HoldsText (env : Environment) (name : String) : Prop :=
  ∀ bytes, env.get? name = some bytes → (Text.strict? bytes).isSome = true

/-- What a level looks for in the environment can be read. -/
structure Completable (env : Environment) (l : Level) : Prop where
  storageRoot : l.value? .storageRoot = none → env.get? Storage.rootVariable ≠ some []
  tag : l.value? .tag = none → HoldsText env "PROSEMD_TAG"
  releaseUrl : l.value? .releaseUrl = none → HoldsText env "PROSEMD_RELEASE_URL"

namespace Settings

variable {env : Environment} {l : Level}

theorem rootVariable?_eq_ok_iff {found : Option (Found Bytes)} :
    rootVariable? env = .ok found ↔ env.get? Storage.rootVariable ≠ some [] ∧
      found = (env.get? Storage.rootVariable).map (⟨.environment, ·⟩) := by
  unfold rootVariable?
  cases env.get? Storage.rootVariable with
  | none => simp [eq_comm]
  | some path =>
    by_cases hpath : path = []
    · simp [hpath]
    · simp [hpath, eq_comm]

theorem textVariable?_eq_ok_iff {name : String} {found : Option (Found String)} :
    textVariable? env name = .ok found ↔
      HoldsText env name ∧ found = (env.text? name).map (⟨.environment, ·⟩) := by
  unfold textVariable? HoldsText Environment.text?
  cases env.get? name with
  | none => exact ⟨fun h => ⟨by simp, (Except.ok.inj h).symm⟩, fun h => congrArg _ h.2.symm⟩
  | some bytes =>
    cases htext : Text.strict? bytes with
    | none => simp [htext]
    | some s =>
      simp only [Option.bind_some, htext]
      exact ⟨fun h => ⟨by simp [htext], (Except.ok.inj h).symm⟩, fun h => congrArg _ h.2.symm⟩

theorem orElse_eq_ok_iff {α : Type} {given found : Option (Found α)}
    {other : Except UsageFault (Option (Found α))} {readable : Prop}
    {value : Option (Found α)} (h : ∀ f, other = .ok f ↔ readable ∧ f = value) :
    orElse given other = .ok found ↔ (given = none → readable) ∧ found = given.or value := by
  cases given with
  | none => simpa [orElse] using h found
  | some g => simp [orElse, eq_comm]

/-- A level with what the environment adds to it. -/
def completed (env : Environment) (l : Level) : Settings where
  storageRoot :=
    (givenRoot? l).or ((env.get? Storage.rootVariable).map (⟨.environment, ·⟩))
  tag :=
    ((given? l .tag).or ((env.text? "PROSEMD_TAG").map (⟨.environment, ·⟩))).getD
      ⟨.builtIn, defaultTag⟩
  releaseUrl :=
    (given? l .releaseUrl).or ((env.text? "PROSEMD_RELEASE_URL").map (⟨.environment, ·⟩))
  logFile := given? l .logFile
  quiet := ⟨if l.quiet then .commandLine else .builtIn, l.quiet⟩

theorem complete_eq_ok_iff {s : Settings} :
    complete env l = .ok s ↔ Completable env l ∧ s = completed env l := by
  have hnone : ∀ setting, given? l setting = none ↔ l.value? setting = none := by
    simp [given?]
  have hnoRoot : givenRoot? l = none ↔ l.value? .storageRoot = none := by
    simp [givenRoot?]
  unfold complete
  rw [bind_eq_ok_iff]
  constructor
  · rintro ⟨storageRoot, hroot, h⟩
    obtain ⟨tag, htag, h⟩ := bind_eq_ok_iff.1 h
    obtain ⟨releaseUrl, hurl, h⟩ := bind_eq_ok_iff.1 h
    obtain ⟨hroot', rfl⟩ := (orElse_eq_ok_iff fun _ => rootVariable?_eq_ok_iff).1 hroot
    obtain ⟨htag', rfl⟩ := (orElse_eq_ok_iff fun _ => textVariable?_eq_ok_iff).1 htag
    obtain ⟨hurl', rfl⟩ := (orElse_eq_ok_iff fun _ => textVariable?_eq_ok_iff).1 hurl
    rw [hnoRoot] at hroot'
    rw [hnone] at htag' hurl'
    exact ⟨⟨hroot', htag', hurl'⟩, (Except.ok.inj h).symm⟩
  · rintro ⟨⟨hroot, htag, hurl⟩, rfl⟩
    rw [← hnoRoot] at hroot
    rw [← hnone] at htag hurl
    refine ⟨_, (orElse_eq_ok_iff fun _ => rootVariable?_eq_ok_iff).2 ⟨hroot, rfl⟩, ?_⟩
    refine bind_eq_ok_iff.2
      ⟨_, (orElse_eq_ok_iff fun _ => textVariable?_eq_ok_iff).2 ⟨htag, rfl⟩, ?_⟩
    exact bind_eq_ok_iff.2
      ⟨_, (orElse_eq_ok_iff fun _ => textVariable?_eq_ok_iff).2 ⟨hurl, rfl⟩, rfl⟩

theorem pick?_value {α : Type} (outer inner held : Option α) :
    (Found.pick? ((outer.map (⟨.commandLine, ·⟩)).or (held.map (⟨.environment, ·⟩)))
        ((inner.map (⟨.commandLine, ·⟩)).or (held.map (⟨.environment, ·⟩)))).map
          Found.value = (inner.or outer).or held := by
  cases outer <;> cases inner <;> cases held <;> rfl

theorem pick_value (outer inner held : Option String) (builtIn : String) :
    (Found.pick (((outer.map (⟨.commandLine, ·⟩)).or (held.map (⟨.environment, ·⟩))).getD
          ⟨.builtIn, builtIn⟩)
        (((inner.map (⟨.commandLine, ·⟩)).or (held.map (⟨.environment, ·⟩))).getD
          ⟨.builtIn, builtIn⟩)).value = ((inner.or outer).or held).getD builtIn := by
  cases outer <;> cases inner <;> cases held <;> rfl

theorem pick_flag (outer inner : Bool) :
    (Found.pick ⟨if outer then .commandLine else .builtIn, outer⟩
      ⟨if inner then .commandLine else .builtIn, inner⟩).value = (outer || inner) := by
  cases outer <;> cases inner <;> rfl

end Settings

/-- The invocation that two levels and the environment make. -/
def invoked (env : Environment) (outer inner : Level) (command : Command) : Invocation where
  storageRoot :=
    (((inner.value? .storageRoot).or (outer.value? .storageRoot)).map .ofText).or
      (env.get? Storage.rootVariable)
  tag := (((inner.value? .tag).or (outer.value? .tag)).or (env.text? "PROSEMD_TAG")).getD defaultTag
  releaseUrl :=
    ((inner.value? .releaseUrl).or (outer.value? .releaseUrl)).or (env.text? "PROSEMD_RELEASE_URL")
  logFile := (inner.value? .logFile).or (outer.value? .logFile)
  quiet := outer.quiet || inner.quiet
  command := command

open Settings in
theorem invocation_merge (env : Environment) (outer inner : Level) (command : Command) :
    (merge (completed env outer) (completed env inner)).invocation command =
      invoked env outer inner command := by
  have hroot := pick?_value ((outer.value? .storageRoot).map Bytes.ofText)
    ((inner.value? .storageRoot).map Bytes.ofText) (env.get? Storage.rootVariable)
  simp only [Option.map_map, Function.comp_def, ← Option.map_or] at hroot
  have htag := pick_value (outer.value? .tag) (inner.value? .tag) (env.text? "PROSEMD_TAG")
    defaultTag
  have hurl := pick?_value (outer.value? .releaseUrl) (inner.value? .releaseUrl)
    (env.text? "PROSEMD_RELEASE_URL")
  have hlog := pick?_value (outer.value? .logFile) (inner.value? .logFile) none
  simp only [Option.map_none, Option.or_none] at hlog
  simp only [merge, invocation, completed, given?, givenRoot?, invoked, hroot, htag, hurl, hlog, pick_flag]

/-- A command line is accepted as what its two levels and the environment make together. -/
theorem parse_eq_ok_iff_invoked {env : Environment} {args : List String} {i : Invocation} :
    parse env args = .ok i ↔
      ∃ top name rest p level next,
        Level.Yields .top { } args top (some (name, rest)) ∧ Place.ofCommand? name = some p ∧
          Level.Yields p { } rest level next ∧ Completable env level ∧ Completable env top ∧
          i = invoked env top level (commandOf p level) := by
  rw [parse_eq_ok_iff]
  constructor
  · rintro ⟨top, name, rest, p, level, next, inner, outer, htop, hp, hlevel, hinner, houter, rfl⟩
    obtain ⟨hinner', rfl⟩ := Settings.complete_eq_ok_iff.1 hinner
    obtain ⟨houter', rfl⟩ := Settings.complete_eq_ok_iff.1 houter
    exact ⟨top, name, rest, p, level, next, htop, hp, hlevel, hinner', houter',
      invocation_merge env top level _⟩
  · rintro ⟨top, name, rest, p, level, next, htop, hp, hlevel, hinner, houter, rfl⟩
    exact ⟨top, name, rest, p, level, next, _, _, htop, hp, hlevel,
      Settings.complete_eq_ok_iff.2 ⟨hinner, rfl⟩, Settings.complete_eq_ok_iff.2 ⟨houter, rfl⟩,
      invocation_merge env top level _⟩

end ServerLauncher.Cli
