import ServerLauncher.Proofs.SingleCall

/-!
What a call for a server logs. A server that is there and does not run is remarked on once, and a
download is logged by its address and by its end, at the level of the answer. A call that fails
before there is anything to download, as its directory cannot be made or no build is published for
the host, logs no failure.
-/

namespace ServerLauncher

namespace Log.Message

/-- A warning about an installed server. -/
def isRemark (m : Message) : Bool :=
  m.level = .warn && "Installed server at ".toList.isPrefixOf m.text.toList

def isFailure (m : Message) : Bool :=
  m.level = .error

end Log.Message

open Log.Message

namespace Acquirer

variable {a : Acquirer} {probe : Probe} {respond : String → Response} {root : String} {tag : Tag}
  {s : Transfer} {t : Tree}

/-- The level at which an answer is logged. -/
def levelOf : Except AcquireError Acquisition → Level
  | .ok (.cached _) => .info
  | .ok (.downloaded _) => .info
  | .ok .cancelled => .warn
  | .error _ => .error

/-- The line that tells of a failed download. -/
def failureLine (url : String) (e : AcquireError) : Log.Message :=
  ⟨.error, "Failed to download server from " ++ url ++ ": " ++ e.message⟩

def remark (path : String) (v : Verdict) : Log.Message :=
  ⟨.warn, "Installed server at " ++ path ++ " is unusable (" ++ v.text ++
    "); downloading a fresh copy"⟩

theorem isRemark_remark (path : String) (v : Verdict) : (remark path v).isRemark = true := by
  simp [isRemark, remark]

theorem unusable_eq (path : String) (v : Verdict) :
    unusable path v = if v = .missing then [] else [remark path v] := rfl

theorem conclude_level (url path : String) (ending : Ending) :
    (conclude url path ending).1.level = levelOf (conclude url path ending).2 := by
  cases ending <;> rfl

theorem conclude_of_error {url path : String} {ending : Ending} {e : AcquireError}
    (h : (conclude url path ending).2 = .error e) :
    (conclude url path ending).1 = failureLine url e := by
  cases ending with
  | completed bytes => cases h
  | cancelled => cases h
  | failed e' =>
    obtain rfl := Except.error.inj h
    rfl

theorem filter_isRemark_told (url path : String) (ending : Ending) :
    [⟨.info, "Server URL: " ++ url⟩, (conclude url path ending).1].filter isRemark = [] := by
  cases ending with
  | completed bytes => rfl
  | cancelled =>
    have hother : isRemark ⟨.warn, "Server download cancelled"⟩ = false := by decide +kernel
    rw [conclude, List.filter_cons_of_neg (by simp [isRemark])]
    exact List.filter_cons_of_neg (by simp [hother])
  | failed e => rfl

theorem filter_isFailure_told (url path : String) (ending : Ending) :
    [⟨.info, "Server URL: " ++ url⟩, (conclude url path ending).1].filter isFailure =
      match (conclude url path ending).2 with
      | .ok _ => []
      | .error e => [failureLine url e] := by
  cases ending <;> rfl

theorem fetch_log {url : String} (hurl : a.url tag = .ok url) (respond : String → Response)
    (path : String) (s : Transfer) :
    ∃ ending, (a.fetch respond tag path s).result = (conclude url path ending).2 ∧
      (a.fetch respond tag path s).log =
        [⟨.info, "Server URL: " ++ url⟩, (conclude url path ending).1] := by
  rw [fetch_def, hurl]
  dsimp only
  generalize Download.run ⟨a.workplace, url, path, a.config.stallTimeout⟩ (respond url)
    (s.report a.title) = done
  exact ⟨done.2, rfl, rfl⟩

/-- The four ways of a call, each with its answer and its log. -/
inductive Logged (a : Acquirer) (probe : Probe) (root : String) (tag : Tag) (t₀ : Tree) :
    Except AcquireError Acquisition → List Log.Message → Prop
  | unmade {t : Tree} {e : AcquireError} : a.destination t₀ root tag = (t, .error e) →
      Logged a probe root tag t₀ (.error e) []
  | cached {t : Tree} {path : String} : a.destination t₀ root tag = (t, .ok path) →
      (probe t path).verdict = .valid →
      Logged a probe root tag t₀ (.ok (.cached path)) [⟨.info, "Using installed server: " ++ path⟩]
  | unbuilt {t : Tree} {path : String} {e : AcquireError} :
      a.destination t₀ root tag = (t, .ok path) → (probe t path).verdict ≠ .valid →
      a.url tag = .error e →
      Logged a probe root tag t₀ (.error e) (unusable path (probe t path).verdict)
  | fetched {t : Tree} {path url : String} (ending : Ending) :
      a.destination t₀ root tag = (t, .ok path) → (probe t path).verdict ≠ .valid →
      a.url tag = .ok url →
      Logged a probe root tag t₀ (conclude url path ending).2
        (unusable path (probe t path).verdict ++
          [⟨.info, "Server URL: " ++ url⟩, (conclude url path ending).1])

theorem logged (a : Acquirer) (probe : Probe) (respond : String → Response) (root : String)
    (tag : Tag) (s : Transfer) :
    Logged a probe root tag s.tree (a.ensure probe respond root tag s).result
      (a.ensure probe respond root tag s).log := by
  rw [ensure_def]
  cases hdest : a.destination s.tree root tag with
  | mk t made =>
    cases made with
    | error e => exact .unmade hdest
    | ok path =>
      dsimp only
      by_cases hvalid : (probe t path).verdict = .valid
      · rw [if_pos (Verdict.isValid_iff.2 hvalid)]
        exact .cached hdest hvalid
      · rw [if_neg (mt Verdict.isValid_iff.1 hvalid)]
        cases hurl : a.url tag with
        | error e =>
          have hfetch : a.fetch respond tag path (afterTrial s (probe t path)) =
              { result := .error e, transfer := afterTrial s (probe t path) } := by
            rw [fetch_def, hurl]
          rw [hfetch]
          dsimp only
          rw [List.append_nil]
          exact .unbuilt hdest hvalid hurl
        | ok url =>
          obtain ⟨ending, hresult, hlog⟩ :=
            fetch_log hurl respond path (afterTrial s (probe t path))
          dsimp only
          rw [hresult, hlog]
          exact .fetched ending hdest hvalid hurl

theorem filter_isRemark_unusable (path : String) (v : Verdict) :
    (unusable path v).filter isRemark = unusable path v := by
  rw [unusable_eq]
  split
  · rfl
  · exact List.filter_cons_of_pos (isRemark_remark path v)

theorem filter_isFailure_unusable (path : String) (v : Verdict) :
    (unusable path v).filter isFailure = [] := by
  rw [unusable_eq]
  split <;> rfl

/-- A remark is logged exactly if the server was tried, is there and does not run. -/
theorem Logged.remarks {r : Except AcquireError Acquisition} {log : List Log.Message}
    (h : Logged a probe root tag t r log) :
    log.filter isRemark =
      match a.destination t root tag with
      | (_, .error _) => []
      | (t, .ok path) =>
        if (probe t path).verdict = .valid ∨ (probe t path).verdict = .missing then []
        else [remark path (probe t path).verdict] := by
  have hunusable : ∀ path v, v ≠ .valid →
      unusable path v = if v = .valid ∨ v = .missing then [] else [remark path v] := by
    intro path v hne
    rw [unusable_eq]
    simp only [hne, false_or]
  cases h with
  | unmade hdest => rw [hdest]; rfl
  | cached hdest hvalid =>
    rw [hdest]
    dsimp only
    rw [if_pos (Or.inl hvalid)]
    rfl
  | unbuilt hdest hvalid _ =>
    rw [hdest, filter_isRemark_unusable]
    exact hunusable _ _ hvalid
  | fetched ending hdest hvalid _ =>
    rw [hdest, List.filter_append, filter_isRemark_unusable, filter_isRemark_told,
      List.append_nil]
    exact hunusable _ _ hvalid

/-- A call that is answered logs no failure, and says last at which level it has been answered. -/
theorem Logged.answered {x : Acquisition} {log : List Log.Message}
    (h : Logged a probe root tag t (.ok x) log) :
    log.filter isFailure = [] ∧ log.getLast?.map Log.Message.level = some (levelOf (.ok x)) := by
  generalize hr : (Except.ok x : Except AcquireError Acquisition) = r at h
  cases h with
  | unmade _ => cases hr
  | unbuilt _ _ _ => cases hr
  | cached _ _ => exact ⟨rfl, rfl⟩
  | @fetched t path url ending _ _ _ =>
    have htold := filter_isFailure_told url path ending
    refine ⟨?_, ?_⟩
    · rw [List.filter_append, filter_isFailure_unusable, htold, ← hr]
      rfl
    · rw [List.getLast?_append, ← conclude_level]
      rfl

/-- A call that fails logs the failure, once and last, if it has come to a download; otherwise
nothing is logged but the remark on the server. -/
theorem Logged.failed {e : AcquireError} {log : List Log.Message}
    (h : Logged a probe root tag t (.error e) log) :
    match a.destination t root tag, a.url tag with
    | (_, .ok _), .ok url =>
      log.filter isFailure = [failureLine url e] ∧ log.getLast? = some (failureLine url e)
    | _, _ => log.filter isFailure = [] ∧ log = log.filter isRemark := by
  generalize hr : (Except.error e : Except AcquireError Acquisition) = r at h
  cases h with
  | cached _ _ => cases hr
  | unmade hdest =>
    rw [hdest]
    exact ⟨rfl, rfl⟩
  | @unbuilt t path e' hdest _ hurl =>
    rw [hdest, hurl]
    exact ⟨filter_isFailure_unusable _ _, (filter_isRemark_unusable _ _).symm⟩
  | @fetched t path url ending hdest _ hurl =>
    rw [hdest, hurl]
    have htold := filter_isFailure_told url path ending
    rw [← hr] at htold
    refine ⟨?_, ?_⟩
    · rw [List.filter_append, filter_isFailure_unusable, htold]
      rfl
    · rw [List.getLast?_append, ← conclude_of_error hr.symm]
      rfl

/-- A call remarks once on a server that is there and does not run, and on no other. Every answer is
logged last, at its level and without a failure. A failure is logged once and last if the call has
come to a download, and not at all if its directory could not be made or no build is published for
the host. -/
theorem call_logs_failed_download (a : Acquirer) (probe : Probe) (respond : String → Response)
    (root : String) (tag : Tag) (s : Transfer) :
    let r := a.ensure probe respond root tag s
    (r.log.filter isRemark =
      match a.destination s.tree root tag with
      | (_, .error _) => []
      | (t, .ok path) =>
        if (probe t path).verdict = .valid ∨ (probe t path).verdict = .missing then []
        else [remark path (probe t path).verdict]) ∧
      match r.result with
      | .ok x =>
        r.log.filter isFailure = [] ∧ r.log.getLast?.map Log.Message.level = some (levelOf (.ok x))
      | .error e =>
        match a.destination s.tree root tag, a.url tag with
        | (_, .ok _), .ok url =>
          r.log.filter isFailure = [failureLine url e] ∧
            r.log.getLast? = some (failureLine url e)
        | _, _ => r.log.filter isFailure = [] ∧ r.log = r.log.filter isRemark := by
  dsimp only
  have h := a.logged probe respond root tag s
  refine ⟨h.remarks, ?_⟩
  generalize (a.ensure probe respond root tag s).result = result at h
  cases result with
  | ok x => exact h.answered
  | error e => exact h.failed

def rootFile : Tree := ⟨[(["root"], .file 0o644 [])], []⟩

/-- A directory that cannot be made, and a host that no build is published for, fail without a line
that says so. -/
theorem early_failure_not_logged :
    (plain.ensure (.always .missing) (fun _ => {}) "root" firstTag
        (.start rootFile {} false)).result =
      .error (.file "create directory" "root/server" (.os .notDirectory)) ∧
    (plain.ensure (.always .missing) (fun _ => {}) "root" firstTag
        (.start rootFile {} false)).log = [] ∧
    (foreign.ensure (.always .notExecutable) (fun _ => {}) "root" firstTag
        (.start ⟨[], []⟩ {} false)).result = .error (.unsupportedPlatform "freebsd") ∧
    (foreign.ensure (.always .notExecutable) (fun _ => {}) "root" firstTag
        (.start ⟨[], []⟩ {} false)).log = [remark "root/server/prosemd-lsp-v1" .notExecutable] := by
  have hdir : Release.serverDir "root" = "root/server" := by decide +kernel
  have hrefused : rootFile.makeDirs plain.workplace.key (Release.serverDir "root") =
      (rootFile, some (.os .notDirectory)) := by decide +kernel
  have hmade : Tree.makeDirs ⟨[], []⟩ foreign.workplace.key (Release.serverDir "root") =
      (⟨[(["root"], .dir), (["server", "root"], .dir)], []⟩, none) := by decide +kernel
  have hurl : foreign.url firstTag = .error (.unsupportedPlatform "freebsd") :=
    url_of_no_build firstTag rfl
  refine ⟨?_, by decide +kernel, ?_, by decide +kernel⟩
  · rw [ensure_of_refused hrefused, ← hdir]
  · exact (ensure_of_no_build _ hmade (by decide) hurl).1

end Acquirer

end ServerLauncher
