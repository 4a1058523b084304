import ServerLauncher.Proofs.Preparation
import ServerLauncher.Proofs.ReleaseAddress
import ServerLauncher.Proofs.SingleCall

/-!
What the exit code of a failed launch says of the root of its causes. A refused tag, a refused
setting, a failed file operation and a failed transfer have a code each, and where a call for a
server fails, its code is the one of the root: a transfer has failed only after it was asked for,
and a file operation only where it was tried. A log file that cannot be opened is the exception
among the starts that fail: its root is a failed file operation, and its code says nothing. Settings
that no request can be made with are taken for a failed transfer.
-/

namespace ServerLauncher

open Link

/-- The exit code for the kind of thing that a root is. -/
def Link.classCode : Link → Nat
  | acquire (.invalidTag ..) => 64
  | acquire (.unsupportedPlatform _) => 69
  | acquire (.transport _) => 75
  | transport _ => 75
  | file _ => 74
  | acquire (.config _) => 78
  | config _ => 78
  | address _ => 78
  | path _ => 78
  | _ => 1

/-- The code of a failed acquisition is the one of its root. -/
theorem AcquireError.exitCode_eq_classCode (e : AcquireError) :
    e.exitCode = (Cause.acquire e).root.classCode := by
  cases e with
  | config error => cases error <;> rfl
  | _ => rfl

namespace Network

theorem validate_of_check {c : Config} (h : check c = .ok ()) : c.validate = .ok () := by
  unfold check at h
  split at h
  · cases h
  · rename_i hvalid
    exact hvalid

/-- Settings that pass the check but have no text for a header are told as a failed transfer,
although nothing has been asked for. -/
theorem exitCode_of_check {c : Config} {e : AcquireError} (h : check c = .error e) :
    (e.exitCode = 78 ∧ ∃ fault, c.validate = .error fault ∧ e = .config fault) ∨
      (e.exitCode = 75 ∧ c.validate = .ok () ∧ Config.isHeaderText c.userAgent = false) := by
  unfold check at h
  cases hvalid : c.validate with
  | error fault =>
    rw [hvalid] at h
    obtain rfl := Except.error.inj h
    exact Or.inl ⟨rfl, fault, rfl, rfl⟩
  | ok _ =>
    rw [hvalid] at h
    dsimp only at h
    unfold clientFault? at h
    by_cases hheader : Config.isHeaderText c.userAgent = true
    · rw [if_pos hheader] at h
      cases h
    · rw [if_neg hheader] at h
      obtain rfl := Except.error.inj h
      exact Or.inr ⟨rfl, rfl, by simpa using hheader⟩

end Network

namespace Download

variable {j : Job} {response : Response} {s s' : Transfer} {dir : String} {e : AcquireError}

/-- Why a download fails: the transfer, or an operation on its staged file. -/
inductive FailsBy (j : Job) (response : Response) (dir : String) : AcquireError → Prop
  | transfer (e : TransportError) : FailsBy j response dir (.transport e)
  | staged {t : Tree} {e : FileError} : Staged.create t j.workplace dir = .error e →
      FailsBy j response dir (.file "create temporary file in" dir e)
  | unwritten {t t' : Tree} {st : Staged} {kept : Bytes} {e : FileError} :
      Staged.create t j.workplace dir = .ok (t', st) → .unwritten kept e ∈ response.steps →
      FailsBy j response dir (.file "write to" (FilePath.join j.workplace.text st.path) e)
  | unclosed {t t' : Tree} {st : Staged} {action : String} {e : FileError} :
      Staged.create t j.workplace dir = .ok (t', st) →
      response.closing.fault? = some (action, e) →
      FailsBy j response dir (.file action (FilePath.join j.workplace.text st.path) e)
  | moved {t : Tree} {st : Staged} {e : FileError} :
      st.commit t j.workplace j.destination = .error e →
      FailsBy j response dir (.file "move download to" j.destination e)

theorem failsBy_interrupted {i : Interruption} (h : interrupted j i = .failed e) :
    FailsBy j response dir e := by
  cases i with
  | cancelled => cases h
  | stalled =>
    obtain rfl := Ending.failed.inj h
    exact .transfer _

theorem failsBy_fetch (h : (fetch j response s).2 = some (.failed e)) : FailsBy j response dir e := by
  unfold fetch at h
  dsimp only at h
  split at h
  · exact failsBy_interrupted (Option.some.inj h)
  · cases hanswer : response.answer with
    | body =>
      rw [hanswer] at h
      cases h
    | fail error =>
      rw [hanswer] at h
      obtain rfl := Ending.failed.inj (Option.some.inj h)
      exact .transfer _
    | hang =>
      rw [hanswer] at h
      exact failsBy_interrupted (Option.some.inj h)

theorem failsBy_staging (h : staging j response dir s = .stop s' (.failed e)) :
    FailsBy j response dir e := by
  unfold staging at h
  split at h
  · rename_i fault hmade
    obtain rfl := Ending.failed.inj (Turn.stop.inj h).2
    exact .staged hmade
  · obtain ⟨-, hcancelled, -⟩ := Reception.await_stop h
    cases hcancelled

theorem failsBy_opening (hdir : FilePath.parent? j.destination = some dir)
    (h : opening j response s = .stop s' (.failed e)) : FailsBy j response dir e := by
  unfold opening at h
  rw [hdir] at h
  dsimp only at h
  split at h
  · cases (Turn.stop.inj h).2
  · split at h
    · rename_i s₁ ending hfetch
      obtain ⟨-, rfl⟩ := Turn.stop.inj h
      exact failsBy_fetch (by rw [hfetch])
    · exact failsBy_staging h

/-- What is being received has been staged in the directory of the destination. -/
theorem Midway.created {pre : List Step} {r : Reception} (h : Midway j response s pre r)
    (hdir : FilePath.parent? j.destination = some dir) :
    ∃ t, Staged.create s.tree j.workplace dir = .ok (t, r.staged) := by
  obtain ⟨r₀, hopen, hcourse⟩ := h
  obtain ⟨dir', hdir', -, -, hmade, -⟩ := opening_go hopen
  obtain rfl := Option.some.inj (hdir.symm.trans hdir')
  obtain ⟨-, -, hst, -⟩ := hcourse.spec
  exact ⟨_, by rw [hst, hmade]⟩

theorem failsBy_take {r : Reception} {step : Step} {t t' : Tree}
    (hmade : Staged.create t j.workplace dir = .ok (t', r.staged)) (hstep : step ∈ response.steps)
    (h : r.take j step = .stop s' (.failed e)) : FailsBy j response dir e := by
  cases step with
  | chunk bytes =>
    obtain ⟨-, hcancelled, -⟩ := Reception.await_stop h
    cases hcancelled
  | unwritten kept error =>
    obtain rfl := Ending.failed.inj (Turn.stop.inj h).2
    exact .unwritten hmade hstep
  | fail error =>
    obtain rfl := Ending.failed.inj (Turn.stop.inj h).2
    exact .transfer _
  | wait millis =>
    simp only [Reception.take] at h
    split at h
    · cases h
    · exact failsBy_interrupted (Turn.stop.inj h).2
  | hang => exact failsBy_interrupted (Turn.stop.inj h).2
  | cancel => cases h
  | change c => cases h

theorem failsBy_fault? {r : Reception} {t t' : Tree}
    (hmade : Staged.create t j.workplace dir = .ok (t', r.staged))
    (hclosing : r.closing = response.closing) (h : r.fault? j = some e) :
    FailsBy j response dir e := by
  unfold Reception.fault? at h
  split at h
  · obtain rfl := Option.some.inj h
    exact .transfer _
  · obtain ⟨⟨action, error⟩, hfault, rfl⟩ := Option.map_eq_some_iff.1 h
    rw [hclosing] at hfault
    exact .unclosed hmade hfault

theorem failsBy_finish {r : Reception} {t t' : Tree}
    (hmade : Staged.create t j.workplace dir = .ok (t', r.staged))
    (hclosing : r.closing = response.closing) (h : (r.finish j).2 = .failed e) :
    FailsBy j response dir e := by
  rcases r.finish_cases j with ⟨error, s', hfault, hfinish, -⟩ | ⟨-, ⟨s', hfinish, -⟩ |
    ⟨s', fault, hfinish, hcommit, -⟩⟩
  · rw [hfinish] at h
    obtain rfl := Ending.failed.inj h
    exact failsBy_fault? hmade hclosing hfault
  · rw [hfinish] at h
    cases h
  · rw [hfinish] at h
    obtain rfl := Ending.failed.inj h
    exact .moved hcommit

theorem failsBy_run (hdir : FilePath.parent? j.destination = some dir)
    (h : (run j response s).2 = .failed e) : FailsBy j response dir e := by
  rcases run_cases j response s with ⟨s', ending, hopen, hrun, -⟩ | ⟨r, hmid, hrun, -⟩ |
    ⟨pre, step, post, r, s', ending, hsteps, hmid, htake, hrun, -⟩
  · rw [hrun] at h
    obtain rfl : ending = .failed e := h
    exact failsBy_opening hdir hopen
  · rw [hrun] at h
    obtain ⟨t, hmade⟩ := hmid.created hdir
    obtain ⟨-, -, -, -, hclosing⟩ := hmid.spec
    exact failsBy_finish hmade hclosing h
  · rw [hrun] at h
    obtain rfl : ending = .failed e := h
    obtain ⟨t, hmade⟩ := hmid.created hdir
    exact failsBy_take hmade (by simp [hsteps]) htake

end Download

namespace Acquirer

variable {a : Acquirer} {probe : Probe} {respond : String → Response} {root : String} {tag : Tag}
  {s : Transfer} {e : AcquireError}

/-- Why a call for a server fails, and what has been asked for by then. -/
inductive FailsBy (a : Acquirer) (respond : String → Response) (root : String) (tag : Tag)
    (s : Transfer) : AcquireError → List String → Prop
  | directory {t : Tree} {e : FileError} :
      s.tree.makeDirs a.workplace.key (Release.serverDir root) = (t, some e) →
      FailsBy a respond root tag s (.file "create directory" (Release.serverDir root) e) s.requests
  | unbuilt : a.host.bind HostOs.build? = none →
      FailsBy a respond root tag s (.unsupportedPlatform ((a.host.map HostOs.name).getD a.os))
        s.requests
  | download {url dir : String} {e : AcquireError} : a.url tag = .ok url →
      FilePath.parent? (a.installPath root tag) = some dir →
      Download.FailsBy (a.job url (a.installPath root tag)) (respond url) dir e →
      FailsBy a respond root tag s e (s.requests ++ [url])

theorem failsBy_ensure (h : (a.ensure probe respond root tag s).result = .error e) :
    FailsBy a respond root tag s e (a.ensure probe respond root tag s).transfer.requests := by
  cases hmade : s.tree.makeDirs a.workplace.key (Release.serverDir root) with
  | mk t fault =>
    cases fault with
    | some fault =>
      rw [ensure_of_refused hmade] at h ⊢
      obtain rfl := Except.error.inj h
      exact .directory hmade
    | none =>
      by_cases hvalid : (probe t (a.installPath root tag)).verdict = .valid
      · rw [ensure_of_valid hmade hvalid] at h
        cases h
      · cases hbuild : a.host.bind HostOs.build? with
        | none =>
          obtain ⟨hresult, hleaves⟩ :=
            ensure_of_no_build respond hmade hvalid (url_of_no_build tag hbuild)
          obtain rfl := Except.error.inj (h.symm.trans hresult)
          rw [hleaves.requests]
          exact .unbuilt hbuild
        | some b =>
          obtain ⟨url, hurl⟩ : ∃ url, a.url tag = .ok url := ⟨_, url_of_build tag hbuild⟩
          have hcall := ensure_of_build respond hmade hvalid hurl
          have hfailed := (hcall.failed e).1 h
          obtain ⟨dir, hdir⟩ := a.exists_parent_installPath root tag
          have hplace : FilePath.parent? (a.job url (a.installPath root tag)).destination =
              some dir := hdir
          -- a token that has fired before the request cancels the download
          have hnot : ((afterTrial s (probe t (a.installPath root tag))).report
              a.title).watch.fired ≠ true := by
            intro hfired
            rw [Download.run_of_fired hplace hfired] at hfailed
            cases hfailed
          rw [hcall.requests, if_neg hnot]
          exact .download hurl hdir (Download.failsBy_run hplace hfailed)

/-- What is written down in the course of a call does not change why it fails. -/
theorem failsBy_ensureNoting {note : Log.Message → Tree → Tree}
    (h : (a.ensureNoting note probe respond root tag s).result = .error e) :
    FailsBy a respond root tag s e
      (a.ensureNoting note probe respond root tag s).transfer.requests := by
  obtain ⟨said, hsame⟩ := a.ensureNoting_eq note probe respond root tag s
  rw [hsame] at h ⊢
  exact failsBy_ensure h

/-- A call that fails after a transfer has failed has asked for the address of the tag. -/
theorem FailsBy.requests {fault : TransportError} {requests : List String}
    (h : FailsBy a respond root tag s (.transport fault) requests) :
    ∃ url, a.url tag = .ok url ∧ requests = s.requests ++ [url] := by
  generalize he : AcquireError.transport fault = e at h
  cases h with
  | directory _ => cases he
  | unbuilt _ => cases he
  | download hurl _ _ => exact ⟨_, hurl, rfl⟩

theorem FailsBy.classCode_cases {requests : List String}
    (h : FailsBy a respond root tag s e requests) :
    ((∃ fault, (Cause.acquire e).root = .file fault) ∧ e.exitCode = 74) ∨
      (a.host.bind HostOs.build? = none ∧ requests = s.requests ∧
        (∃ os, e = .unsupportedPlatform os) ∧ e.exitCode = 69) ∨
      (∃ fault, e = .transport fault) ∧ e.exitCode = 75 := by
  cases h with
  | directory _ => exact Or.inl ⟨⟨_, rfl⟩, rfl⟩
  | unbuilt hnone => exact Or.inr (Or.inl ⟨hnone, rfl, ⟨_, rfl⟩, rfl⟩)
  | download _ _ hfails =>
    cases hfails with
    | transfer fault => exact Or.inr (Or.inr ⟨⟨fault, rfl⟩, rfl⟩)
    | staged _ => exact Or.inl ⟨⟨_, rfl⟩, rfl⟩
    | unwritten _ _ => exact Or.inl ⟨⟨_, rfl⟩, rfl⟩
    | unclosed _ _ => exact Or.inl ⟨⟨_, rfl⟩, rfl⟩
    | moved _ => exact Or.inl ⟨⟨_, rfl⟩, rfl⟩

end Acquirer

namespace Cli

theorem Showing.TellsOf.code_eq {shown : Showing} {e : AcquireError}
    (h : shown.TellsOf (.bare (.acquire e))) : shown.code = some e.exitCode := by
  cases e <;> exact h.code

namespace Context

variable {s : Scene} {t t' : Tree} {i : Invocation} {f : Failure} {c : Context}

theorem configOf_artifact (i : Invocation) : (configOf i).artifact = "prosemd-lsp" := by
  unfold configOf
  split <;> rfl

/-- The address that a ready command asks for can be read, if the release address does not end with
a blank. -/
theorem url_parses_of_prepared (h : prepare s t i = (t', .ok c)) {url : String}
    (hurl : c.acquirer.url c.tag = .ok url)
    (hend : ∀ ch, (configOf i).releaseUrl.toList.getLast? = some ch → Url.isEdge ch = false) :
    ∃ u, Url.parse url = .ok u := by
  have hready := isReady_of_prepared h
  obtain ⟨u, hbase, hweb⟩ := Config.validate_eq_ok (Network.validate_of_check hready.settings)
  have hartifact : ∀ ch ∈ (configOf i).artifact.toList, Url.isUnreserved ch = true := by
    rw [configOf_artifact]
    exact List.all_eq_true.1 (by decide +kernel)
  obtain ⟨os, b, hhost, hbuild⟩ : ∃ os b, c.acquirer.host = some os ∧ os.build? = some b := by
    cases hfound : c.acquirer.host.bind HostOs.build? with
    | none =>
      rw [Acquirer.url_of_no_build c.tag hfound] at hurl
      cases hurl
    | some b =>
      obtain ⟨os, hhost, hbuild⟩ := Option.bind_eq_some_iff.1 hfound
      exact ⟨os, b, hhost, hbuild⟩
  have hsame : c.acquirer.url c.tag =
      .ok (Release.url (configOf i).releaseUrl (configOf i).artifact c.tag b) := by
    rw [Acquirer.url_of_host hhost hbuild, hready.acquirer]
  obtain rfl := Except.ok.inj (hurl.symm.trans hsame)
  obtain ⟨path, n, blanks, -, -, -, hread, hends⟩ :=
    Release.url_parses c.tag hartifact hbuild hbase hweb
  obtain ⟨-, hnone, -⟩ := hends (Url.endsPlain_of_getLast? hend)
  exact ⟨_, hread (Or.inr hnone)⟩

/-- The roots of refused starts, with the codes that they are told by. A log file that cannot be
opened has no code of its own. -/
inductive RefusalCode (s : Scene) (t : Tree) (i : Invocation) : Link → Nat → Prop
  | storage {e : PathError} : rootOf s t i = .error (.bare (.path e)) →
      RefusalCode s t i (.path e) 78
  | tag {fault : TagFault} : Tag.fault? i.tag.toList = some fault →
      RefusalCode s t i (.acquire (.invalidTag i.tag fault.text)) 64
  | settings {fault : ConfigError} : (configOf i).validate = .error fault →
      RefusalCode s t i (Cause.acquire (.config fault)).root 78
  | log {path : String} {e : FileError} : i.logFile = some path →
      t.openAppend s.workplace.key path = .error e → RefusalCode s t i (.file e) 1

theorem refusalCode_of_refused {K : ErrorKit} (hK : K.Lawful)
    (h : prepare s t i = (t', .error f)) :
    RefusalCode s t i f.cause.root (K.exitCode (f.build K)) := by
  rw [f.exitCode_build hK, hK.exitCode_new]
  rcases refused_cases h with ⟨-, hroot, e, rfl⟩ | ⟨-, -, fault, hfault, rfl⟩ |
    ⟨-, path, e, hpath, hopen, rfl⟩ | ⟨log, fault, -, hvalid, rfl⟩
  · exact .storage hroot
  · exact .tag hfault
  · exact .log hpath hopen
  · exact .settings hvalid

/-- A refused start is never told as a failed file operation or a failed transfer, and it is told by
the code of its root unless that is a failed file operation. -/
theorem RefusalCode.spec {r : Link} {n : Nat} (h : RefusalCode s t i r n) :
    n ≠ 74 ∧ n ≠ 75 ∧ (n = r.classCode ↔ ∀ e, r ≠ .file e) := by
  cases h with
  | storage _ => simp [classCode]
  | tag _ => simp [classCode]
  | @settings fault _ => cases fault <;> simp [Cause.root, Cause.link, classCode]
  | log _ _ => simp [classCode]

end Context

namespace Scene

/-- What the exit code of a failed launch says. A refused start is told by the code of its tag or
setting, but a log file that cannot be opened by no class at all. A failed call is told by the code
of its root: of a file operation that has failed, of a host without a build, or of a transfer that
has been asked for, at an address that can be read unless the release address ends with a blank.
Settings that no request can be made with are told as a failed transfer, before anything is asked
for. -/
theorem failures_told_by_class (s : Scene) (o : Outside) (hK : o.errors.Lawful) (t : Tree)
    {words : List String} {i : Invocation} (hparse : parse (s.settled t).env words = .ok i) :
    (∀ t' f, Context.prepare (s.settled t) t i = (t', .error f) →
      ∀ links r, Follows f.link links r →
        ∃ n, (s.launch o t words).2.code = some n ∧
          Context.RefusalCode (s.settled t) t i r n ∧
          n ≠ 74 ∧ n ≠ 75 ∧ (n = r.classCode ↔ ∀ e, r ≠ .file e)) ∧
    (∀ t' c, Context.prepare (s.settled t) t i = (t', .ok c) →
      (∀ json, i.command ≠ .paths json) → ∀ report, (s.settled t).report o c t' = report →
      wasKilled report = false → ∀ e, report.result = .error e →
      ∀ links r, Follows (.acquire e) links r →
        (s.launch o t words).2.code = some r.classCode ∧
        c.acquirer.FailsBy o.respond c.rootText c.tag (.start t' o.cancellation true) e
          report.transfer.requests ∧
        ((r.classCode = 74 ∧ ∃ fault, r = .file fault) ∨
          (r.classCode = 69 ∧ (∃ os, r = .acquire (.unsupportedPlatform os)) ∧
            c.acquirer.host.bind HostOs.build? = none ∧ report.transfer.requests = []) ∨
          (r.classCode = 75 ∧ (∃ fault, r = .acquire (.transport fault)) ∧
            ∃ url, c.acquirer.url c.tag = .ok url ∧ report.transfer.requests = [url] ∧
              ((∀ ch, (Context.configOf i).releaseUrl.toList.getLast? = some ch →
                Url.isEdge ch = false) → ∃ u, Url.parse url = .ok u)))) ∧
    ∀ config e, Network.check config = .error e →
      (e.exitCode = 78 ∧ ∃ fault, config.validate = .error fault ∧ e = .config fault) ∨
        (e.exitCode = 75 ∧ config.validate = .ok () ∧
          Config.isHeaderText config.userAgent = false) := by
  rw [launch_of_parsed o hparse]
  refine ⟨?_, ?_, ?_⟩
  · intro t' f hprepare links r hlinks
    rw [dispatch_of_refused hprepare]
    have hcode := Context.refusalCode_of_refused hK hprepare
    rw [← Failure.root_eq hlinks] at hcode
    exact ⟨o.errors.exitCode (f.build o.errors), rfl, hcode, hcode.spec⟩
  · rintro t' c hprepare hcommand report rfl hkilled e hresult links r hlinks
    have hroot : r = (Cause.acquire e).root :=
      Failure.root_eq (f := .bare (.acquire e)) hlinks
    have hfails := Acquirer.failsBy_ensureNoting hresult
    obtain ⟨htold, -⟩ := tellsOf_carryOut hK hkilled hcommand hresult
    rw [dispatch_of_prepared hprepare, htold.code_eq, e.exitCode_eq_classCode, ← hroot]
    refine ⟨rfl, hfails, ?_⟩
    rcases hfails.classCode_cases with ⟨⟨fault, hfile⟩, hcode⟩ |
      ⟨hnone, hrequests, ⟨os, rfl⟩, hcode⟩ | ⟨⟨fault, rfl⟩, hcode⟩
    · rw [e.exitCode_eq_classCode, ← hroot] at hcode
      exact Or.inl ⟨hcode, fault, hroot.trans hfile⟩
    · rw [AcquireError.exitCode_eq_classCode, ← hroot] at hcode
      exact Or.inr (Or.inl ⟨hcode, ⟨os, hroot⟩, hnone, hrequests⟩)
    · rw [AcquireError.exitCode_eq_classCode, ← hroot] at hcode
      obtain ⟨url, hurl, hrequests⟩ := hfails.requests
      exact Or.inr (Or.inr ⟨hcode, ⟨fault, hroot⟩, url, hurl, hrequests,
        Context.url_parses_of_prepared hprepare hurl⟩)
  · intro config e h
    exact Network.exitCode_of_check h

/-- No host can be reached, and the transfer fails. -/
theorem unserved_fails :
    (match Context.prepare (quietScene.settled ⟨[], []⟩) ⟨[], []⟩ ensureInvocation with
      | (t', .ok c) =>
        let report := (quietScene.settled ⟨[], []⟩).report barrenOutside c t'
        !wasKilled report &&
          match report.result with
          | .error (.transport _) => true
          | _ => false
      | _ => false) = true := by
  decide +kernel

/-- A transfer that fails has been asked for at an address that can be read. -/
theorem unreachable_host_told :
    barrenOutside.errors.Lawful ∧
      parse (quietScene.settled ⟨[], []⟩).env ensureWords = .ok ensureInvocation ∧
      (quietScene.launch barrenOutside ⟨[], []⟩ ensureWords).2.code = some 75 ∧
      ∃ t' c url u, Context.prepare (quietScene.settled ⟨[], []⟩) ⟨[], []⟩ ensureInvocation =
          (t', .ok c) ∧
        ((quietScene.settled ⟨[], []⟩).report barrenOutside c t').transfer.requests = [url] ∧
        Url.parse url = .ok u := by
  have hparse : parse (quietScene.settled ⟨[], []⟩).env ensureWords = .ok ensureInvocation :=
    Tree.toOption_eq_some_iff.1 (by decide +kernel)
  have hcommand : ∀ json, ensureInvocation.command ≠ .paths json := fun json h => by cases h
  have hK : barrenOutside.errors.Lawful := ErrorKit.plain_lawful
  refine ⟨hK, hparse, ?_⟩
  obtain ⟨-, htold, -⟩ := failures_told_by_class quietScene barrenOutside hK ⟨[], []⟩ hparse
  have hfails := unserved_fails
  cases hprepare : Context.prepare (quietScene.settled ⟨[], []⟩) ⟨[], []⟩ ensureInvocation with
  | mk t' prepared =>
    rw [hprepare] at hfails
    cases prepared with
    | error f => cases hfails
    | ok c =>
      obtain ⟨hkilled, hresult⟩ := (Bool.and_eq_true _ _).mp hfails
      generalize hreport : (quietScene.settled ⟨[], []⟩).report barrenOutside c t' = report
        at hkilled hresult
      split at hresult
      · rename_i fault hfault
        obtain ⟨hcode, -, hcases⟩ := htold t' c hprepare hcommand report hreport
          (by simpa using hkilled) _ hfault _ _ (.root rfl)
        rcases hcases with ⟨h74, -⟩ | ⟨h69, -⟩ | ⟨-, -, url, -, hrequests, hread⟩
        · cases h74
        · cases h69
        · obtain ⟨u, hu⟩ := hread fun ch hch => by
            obtain rfl : ch = '/' := by simpa [ensureInvocation, Context.configOf] using hch.symm
            rfl
          exact ⟨hcode, t', c, url, u, rfl, by rw [hreport]; exact hrequests, hu⟩
      · cases hresult

def unloggedWords : List String := ["--storage-root", "root", "--log-file", "no/a.log", "paths"]

def blankWords : List String :=
  ["--tag=v1", "--storage-root", "root", "--release-url", "http://[::1] ", "ensure"]

def brokenAgent : Config := { releaseUrl := "http://[::1]/", userAgent := "a\nb" }

/-- A log file that cannot be opened ends with the code of no class. A text that is no header, and
an address that can be read only without the blank behind it, are told as failed transfers although
nothing has been asked for. -/
theorem codes_beside_class :
    (∃ i t' f links, parse (quietScene.settled ⟨[], []⟩).env unloggedWords = .ok i ∧
      Context.prepare (quietScene.settled ⟨[], []⟩) ⟨[], []⟩ i = (t', .error f) ∧
      Follows f.link links (.file (.os .noEntry)) ∧
      (quietScene.launch barrenOutside ⟨[], []⟩ unloggedWords).2.code = some 1) ∧
    (∃ e, Network.check brokenAgent = .error e ∧ e.exitCode = 75) ∧
    (Config.validate { releaseUrl := "http://[::1] " }).toOption = some () ∧
    (Url.parse (Release.url "http://[::1] " "prosemd-lsp" Acquirer.firstTag
        ⟨.linux, ""⟩)).toOption = none ∧
    (quietScene.launch barrenOutside ⟨[], []⟩ blankWords).2.code = some 75 := by
  refine ⟨?_, ?_, by decide +kernel, by decide +kernel, by decide +kernel⟩
  · refine ⟨⟨some (.ofText "root"), defaultTag, none, some "no/a.log", false, .paths false⟩,
      ⟨[], []⟩, .within "Failed to open log file no/a.log" (.bare (.file (.os .noEntry))), _, ?_,
      ?_, .next rfl (.root rfl), by decide +kernel⟩
    · exact Tree.toOption_eq_some_iff.1 (by decide +kernel)
    · exact Context.refusal?_eq_some_iff.1 (by decide +kernel)
  · cases hcheck : Network.check brokenAgent with
    | ok _ =>
      have hnone : (Network.check brokenAgent).toOption = none := by decide +kernel
      rw [hcheck] at hnone
      cases hnone
    | error e =>
      refine ⟨e, rfl, ?_⟩
      have hvalid : brokenAgent.validate.toOption = some () := by decide +kernel
      rcases Network.exitCode_of_check hcheck with ⟨-, fault, hfault, -⟩ | ⟨hcode, -⟩
      · rw [hfault] at hvalid
        cases hvalid
      · exact hcode

end Scene

end Cli

end ServerLauncher
