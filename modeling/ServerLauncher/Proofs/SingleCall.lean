import ServerLauncher.Proofs.Cancellation
import ServerLauncher.Proofs.Isolation

/-!
What one call for a server does. The server directory is made first, then the path of the tag is
tried once. A server that runs is the answer, whatever the token, the host and the release store
say. Any other is downloaded from the address of the tag, with one request at most, and the end of
the download decides the answer.
-/

namespace ServerLauncher

open ServerLauncher.Tree

theorem Verdict.isValid_iff {v : Verdict} : v.isValid = true ↔ v = .valid := by
  cases v <;> simp [isValid]

namespace Download

variable {j : Job} {response : Response} {s : Transfer}

theorem staging_silent (j : Job) (response : Response) (dir : String) (s : Transfer) :
    match staging j response dir s with
    | .go r => r.transfer.requests = s.requests ∧ r.transfer.events = s.events ∧
        r.tracker = .start response.length
    | .stop s' _ => s'.requests = s.requests ∧ s'.events = s.events := by
  unfold staging
  generalize Staged.create s.tree j.workplace dir = made
  cases made with
  | error e => exact ⟨rfl, rfl⟩
  | ok fresh =>
    dsimp only
    split
    · rename_i r hgo
      obtain ⟨-, w, -, rfl⟩ := Reception.await_go hgo
      exact ⟨rfl, rfl, rfl⟩
    · rename_i s' e hstop
      obtain ⟨-, -, rfl⟩ := Reception.await_stop hstop
      exact ⟨rfl, rfl⟩

/-- One request is made, unless the token has fired before. -/
theorem requests_run {dir : String} (hdir : FilePath.parent? j.destination = some dir) :
    (run j response s).1.requests = s.requests ++ if s.watch.fired then [] else [j.url] := by
  by_cases hf : s.watch.fired = true
  · rw [run_of_fired hdir hf, if_pos hf, List.append_nil]
  · have hnot : s.watch.fired = false := by simpa using hf
    obtain ⟨-, hreq, -⟩ := fetch_spec j response s
    rw [hnot, if_neg Bool.false_ne_true, ← hreq, run_eq]
    cases hfetch : fetch j response s with
    | mk s₁ ending =>
      cases ending with
      | some e => rw [opening_of_refused hdir hnot hfetch]
      | none =>
        have hstaging := staging_silent j response dir s₁
        rw [opening_of_answered hdir hnot hfetch]
        generalize staging j response dir s₁ = turn at hstaging
        cases turn with
        | go r => exact (Reception.run_requests j r response.steps).trans hstaging.1
        | stop s' e => exact hstaging.1

end Download

namespace Acquirer

variable {a : Acquirer} {probe : Probe} {respond : String → Response} {root : String} {tag : Tag}
  {s : Transfer} {t : Tree}

/-- The path that a server for a tag is installed at. -/
def installPath (a : Acquirer) (root : String) (tag : Tag) : String :=
  FilePath.join (Release.serverDir root) (a.fileName tag)

def job (a : Acquirer) (url path : String) : Download.Job :=
  ⟨a.workplace, url, path, a.config.stallTimeout⟩

theorem exists_parent_installPath (a : Acquirer) (root : String) (tag : Tag) :
    ∃ dir, FilePath.parent? (a.installPath root tag) = some dir :=
  FilePath.exists_parent (FilePath.mem_join (mem_fileName a tag)) (by decide) (by decide)

theorem destination_of_refused {e : FileError}
    (h : s.tree.makeDirs a.workplace.key (Release.serverDir root) = (t, some e)) :
    a.destination s.tree root tag =
      (t, .error (.file "create directory" (Release.serverDir root) e)) := by
  rw [destination, Release.destination]
  simp only [h]

theorem destination_of_made
    (h : s.tree.makeDirs a.workplace.key (Release.serverDir root) = (t, none)) :
    a.destination s.tree root tag = (t, .ok (a.installPath root tag)) := by
  rw [destination, Release.destination]
  simp only [h]
  rfl

theorem url_of_no_build (tag : Tag) (h : a.host.bind HostOs.build? = none) :
    a.url tag = .error (.unsupportedPlatform ((a.host.map HostOs.name).getD a.os)) := by
  unfold url build
  cases hhost : a.host with
  | none => rfl
  | some os =>
    have hbuild : os.build? = none := by simpa [hhost] using h
    simp only [Release.build, hbuild]
    rfl

theorem url_of_build {build : Build} (tag : Tag) (h : a.host.bind HostOs.build? = some build) :
    a.url tag = .ok (Release.url a.config.releaseUrl a.config.artifact tag build) := by
  obtain ⟨os, hhost, hbuild⟩ := Option.bind_eq_some_iff.1 h
  unfold url Acquirer.build
  simp only [hhost, Release.build, hbuild]
  rfl

theorem ensure_of_refused {e : FileError}
    (h : s.tree.makeDirs a.workplace.key (Release.serverDir root) = (t, some e)) :
    a.ensure probe respond root tag s =
      { result := .error (.file "create directory" (Release.serverDir root) e),
        transfer := { s with tree := t } } := by
  rw [ensure_def, destination_of_refused h]

theorem ensure_of_valid
    (h : s.tree.makeDirs a.workplace.key (Release.serverDir root) = (t, none))
    (hvalid : (probe t (a.installPath root tag)).verdict = .valid) :
    a.ensure probe respond root tag s =
      { result := .ok (.cached (a.installPath root tag)),
        transfer := afterTrial s (probe t (a.installPath root tag)),
        probed := [a.installPath root tag],
        signal := (probe t (a.installPath root tag)).signal,
        log := [⟨.info, "Using installed server: " ++ a.installPath root tag⟩] } := by
  rw [ensure_def, destination_of_made h]
  exact if_pos (Verdict.isValid_iff.2 hvalid)

theorem ensure_of_not_valid (respond : String → Response)
    (h : s.tree.makeDirs a.workplace.key (Release.serverDir root) = (t, none))
    (hnot : (probe t (a.installPath root tag)).verdict ≠ .valid) :
    ∃ log, a.ensure probe respond root tag s =
      { a.fetch respond tag (a.installPath root tag)
          (afterTrial s (probe t (a.installPath root tag))) with
        log := log, probed := [a.installPath root tag],
        signal := (probe t (a.installPath root tag)).signal } := by
  rw [ensure_def, destination_of_made h]
  exact ⟨_, if_neg (mt Verdict.isValid_iff.1 hnot)⟩

/-- Nothing has been reported and nothing requested since `s`; the tree is `t`. -/
structure LeavesOnly (r : Report) (s : Transfer) (t : Tree) : Prop where
  tree : r.transfer.tree = t
  events : r.transfer.events = s.events
  requests : r.transfer.requests = s.requests

/-- The call is a download from one address to one path that starts at `s`. A token that has fired
by then leaves no request. -/
structure IsDownload (a : Acquirer) (response : Response) (url path : String) (s : Transfer)
    (r : Report) : Prop where
  transfer : r.transfer = (Download.run (a.job url path) response (s.report a.title)).1
  requests : r.transfer.requests =
    s.requests ++ if (s.report a.title).watch.fired then [] else [url]
  fired : s.watch.fired = true → r.result = .ok .cancelled ∧ r.transfer = s.report a.title
  downloaded : ∀ p, r.result = .ok (.downloaded p) ↔
    p = path ∧ ∃ n, (Download.run (a.job url path) response (s.report a.title)).2 = .completed n
  cancelled : r.result = .ok .cancelled ↔
    (Download.run (a.job url path) response (s.report a.title)).2 = .cancelled
  failed : ∀ e, r.result = .error e ↔
    (Download.run (a.job url path) response (s.report a.title)).2 = .failed e

theorem leavesOnly_afterTrial {o : Probe.Outcome} {r : Report}
    (h : r.transfer = afterTrial s o) : LeavesOnly r s o.tree := by
  rw [afterTrial] at h
  exact ⟨by rw [h], by rw [h], by rw [h]⟩

theorem fired_afterTrial (o : Probe.Outcome) (h : s.watch.fired = true) :
    (afterTrial s o).watch.fired = true := by
  unfold afterTrial
  dsimp only
  split
  · rfl
  · simp [Watch.spend, h]

theorem fired_report (e : Progress.Event) (h : s.watch.fired = true) :
    (s.report e).watch.fired = true := by
  unfold Transfer.report
  dsimp only
  split
  · rfl
  · exact h

/-- The answer to the end of a download says how it ended, and nothing else. -/
theorem conclude_spec (url path : String) (ending : Ending) :
    (∀ p, (conclude url path ending).2 = .ok (.downloaded p) ↔
        p = path ∧ ∃ n, ending = .completed n) ∧
      ((conclude url path ending).2 = .ok .cancelled ↔ ending = .cancelled) ∧
      (∀ e, (conclude url path ending).2 = .error e ↔ ending = .failed e) ∧
      ∀ p, (conclude url path ending).2 ≠ .ok (.cached p) := by
  cases ending <;> simp [conclude, eq_comm]

theorem fetch_eq {url : String} (h : a.url tag = .ok url) (respond : String → Response)
    (path : String) (s : Transfer) :
    (a.fetch respond tag path s).transfer =
        (Download.run (a.job url path) (respond url) (s.report a.title)).1 ∧
      (a.fetch respond tag path s).result = (conclude url path
        (Download.run (a.job url path) (respond url) (s.report a.title)).2).2 := by
  rw [fetch_def, h]
  dsimp only [job]
  generalize Download.run ⟨a.workplace, url, path, a.config.stallTimeout⟩ (respond url)
    (s.report a.title) = done
  exact ⟨rfl, rfl⟩

theorem isDownload_fetch {url : String} (h : a.url tag = .ok url) (respond : String → Response)
    (root : String) (s : Transfer) :
    IsDownload a (respond url) url (a.installPath root tag) s
      (a.fetch respond tag (a.installPath root tag) s) := by
  obtain ⟨dir, hdir⟩ := a.exists_parent_installPath root tag
  obtain ⟨htransfer, hresult⟩ := fetch_eq h respond (a.installPath root tag) s
  obtain ⟨hdownloaded, hcancelled, hfailed, -⟩ := conclude_spec url (a.installPath root tag)
    (Download.run (a.job url (a.installPath root tag)) (respond url) (s.report a.title)).2
  refine ⟨htransfer, ?_, ?_, ?_, ?_, ?_⟩
  · rw [htransfer]
    exact Download.requests_run hdir
  · intro hf
    have hrun : Download.run (a.job url (a.installPath root tag)) (respond url)
        (s.report a.title) = (s.report a.title, .cancelled) :=
      Download.run_of_fired hdir (fired_report a.title hf)
    rw [hresult, htransfer, hrun]
    exact ⟨rfl, rfl⟩
  · rw [hresult]
    exact hdownloaded
  · rw [hresult]
    exact hcancelled
  · rw [hresult]
    exact hfailed

theorem fetch_ne_cached (a : Acquirer) (respond : String → Response) (tag : Tag) (path : String)
    (s : Transfer) (p : String) : (a.fetch respond tag path s).result ≠ .ok (.cached p) := by
  cases hurl : a.url tag with
  | error e => simp [fetch_def, hurl]
  | ok url =>
    rw [(fetch_eq hurl respond path s).2]
    exact (conclude_spec url path _).2.2.2 p

/-- The trial of a file, after which everything has been written down that is said before the
request. -/
def noting (a : Acquirer) (note : Log.Message → Tree → Tree) (tag : Tag) (probe : Probe) : Probe :=
  fun t path =>
    let o := probe t path
    let said :=
      unusable path o.verdict ++
        match a.url tag with
        | .ok url => [⟨.info, "Server URL: " ++ url⟩]
        | .error _ => []
    if o.verdict.isValid then o
    else { o with tree := said.foldl (fun t m => note m t) o.tree }

/-- What is written down in the course of a call stands in the way of nothing: it is written down
after the trial, or at the end. -/
theorem ensureNoting_eq (a : Acquirer) (note : Log.Message → Tree → Tree) (probe : Probe)
    (respond : String → Response) (root : String) (tag : Tag) (s : Transfer) :
    ∃ said, a.ensureNoting note probe respond root tag s =
      let r := a.ensure (a.noting note tag probe) respond root tag s
      { r with transfer := jot note said r.transfer } := by
  rw [ensure_def, ensureNoting]
  cases hdest : a.destination s.tree root tag with
  | mk t made =>
    cases made with
    | error e => exact ⟨[], rfl⟩
    | ok path =>
      by_cases hvalid : (probe t path).verdict.isValid = true
      · have hsame : a.noting note tag probe t path = probe t path := if_pos hvalid
        refine ⟨[⟨.info, "Using installed server: " ++ path⟩], ?_⟩
        simp only [hsame, hvalid, if_true]
      · have hnoted : a.noting note tag probe t path = _ := if_neg hvalid
        simp only [hnoted, hvalid, if_false, Bool.false_eq_true]
        cases hurl : a.url tag with
        | error e =>
          refine ⟨[], ?_⟩
          simp only [fetchNoting, fetch_def, hurl, List.append_nil]
          rfl
        | ok url =>
          have hjot : jot note [⟨.info, "Server URL: " ++ url⟩]
              (jot note (unusable path (probe t path).verdict) (afterTrial s (probe t path))) =
                afterTrial s { probe t path with
                  tree := (unusable path (probe t path).verdict ++
                    [(⟨.info, "Server URL: " ++ url⟩ : Log.Message)]).foldl
                      (fun t m => note m t) (probe t path).tree } := by
            rw [List.foldl_append]
            rfl
          simp only [fetchNoting, fetch_def, hurl, hjot]
          generalize Download.run _ (respond url) _ = done
          exact ⟨[(conclude url path done.2).1], rfl⟩

/-- Only the answer to the address of the tag matters. -/
theorem fetch_congr {respond' : String → Response} (path : String) (s : Transfer)
    (h : ∀ url, a.url tag = .ok url → respond' url = respond url) :
    a.fetch respond' tag path s = a.fetch respond tag path s := by
  rw [fetch_def, fetch_def]
  cases hurl : a.url tag with
  | error e => rfl
  | ok url =>
    dsimp only
    rw [h url hurl]

/-- Only the trial of the path of the tag matters, and only the answer to its address. -/
theorem ensure_congr {probe' : Probe} {respond' : String → Response}
    (h : s.tree.makeDirs a.workplace.key (Release.serverDir root) = (t, none))
    (hprobe : probe' t (a.installPath root tag) = probe t (a.installPath root tag))
    (hrespond : ∀ url, a.url tag = .ok url → respond' url = respond url) :
    a.ensure probe' respond' root tag s = a.ensure probe respond root tag s := by
  rw [ensure_def, ensure_def, destination_of_made h]
  dsimp only
  rw [hprobe, fetch_congr _ _ hrespond]

theorem cached_iff (h : s.tree.makeDirs a.workplace.key (Release.serverDir root) = (t, none))
    (p : String) :
    (a.ensure probe respond root tag s).result = .ok (.cached p) ↔
      (probe t (a.installPath root tag)).verdict = .valid ∧ p = a.installPath root tag := by
  by_cases hvalid : (probe t (a.installPath root tag)).verdict = .valid
  · rw [ensure_of_valid h hvalid]
    simp [hvalid, eq_comm]
  · obtain ⟨log, hr⟩ := ensure_of_not_valid respond h hvalid
    have hne := a.fetch_ne_cached respond tag (a.installPath root tag)
      (afterTrial s (probe t (a.installPath root tag))) p
    rw [hr]
    exact ⟨fun hc => absurd hc hne, fun hc => absurd hc.1 hvalid⟩

theorem probed_eq (h : s.tree.makeDirs a.workplace.key (Release.serverDir root) = (t, none)) :
    (a.ensure probe respond root tag s).probed = [a.installPath root tag] := by
  by_cases hvalid : (probe t (a.installPath root tag)).verdict = .valid
  · rw [ensure_of_valid h hvalid]
  · obtain ⟨log, hr⟩ := ensure_of_not_valid respond h hvalid
    rw [hr]

theorem ensure_of_no_build (respond : String → Response)
    (h : s.tree.makeDirs a.workplace.key (Release.serverDir root) = (t, none))
    (hnot : (probe t (a.installPath root tag)).verdict ≠ .valid) {e : AcquireError}
    (hurl : a.url tag = .error e) :
    (a.ensure probe respond root tag s).result = .error e ∧
      LeavesOnly (a.ensure probe respond root tag s) s
        (probe t (a.installPath root tag)).tree := by
  obtain ⟨log, hr⟩ := ensure_of_not_valid respond h hnot
  rw [hr, fetch_def, hurl]
  exact ⟨rfl, leavesOnly_afterTrial rfl⟩

theorem ensure_of_build (respond : String → Response)
    (h : s.tree.makeDirs a.workplace.key (Release.serverDir root) = (t, none))
    (hnot : (probe t (a.installPath root tag)).verdict ≠ .valid) {url : String}
    (hurl : a.url tag = .ok url) :
    IsDownload a (respond url) url (a.installPath root tag)
      (afterTrial s (probe t (a.installPath root tag)))
      (a.ensure probe respond root tag s) := by
  obtain ⟨log, hr⟩ := ensure_of_not_valid respond h hnot
  have hd := isDownload_fetch hurl respond root
    (afterTrial s (probe t (a.installPath root tag)))
  rw [hr]
  exact ⟨hd.transfer, hd.requests, hd.fired, hd.downloaded, hd.cancelled, hd.failed⟩

/-- A call that downloads nothing asks for nothing and reports nothing. -/
theorem ensure_cases (a : Acquirer) (probe : Probe) (respond : String → Response) (root : String)
    (tag : Tag) (s : Transfer) :
    ((∃ t, LeavesOnly (a.ensure probe respond root tag s) s t) ∧
        ∀ p, (a.ensure probe respond root tag s).result ≠ .ok (.downloaded p)) ∨
      ∃ t url, s.tree.makeDirs a.workplace.key (Release.serverDir root) = (t, none) ∧
        (probe t (a.installPath root tag)).verdict ≠ .valid ∧ a.url tag = .ok url ∧
        IsDownload a (respond url) url (a.installPath root tag)
          (afterTrial s (probe t (a.installPath root tag)))
          (a.ensure probe respond root tag s) := by
  cases hmade : s.tree.makeDirs a.workplace.key (Release.serverDir root) with
  | mk t fault =>
    cases fault with
    | some e =>
      rw [ensure_of_refused hmade]
      exact Or.inl ⟨⟨t, rfl, rfl, rfl⟩, by simp⟩
    | none =>
      by_cases hvalid : (probe t (a.installPath root tag)).verdict = .valid
      · rw [ensure_of_valid hmade hvalid]
        exact Or.inl ⟨⟨_, leavesOnly_afterTrial rfl⟩, by simp⟩
      · cases hurl : a.url tag with
        | error e =>
          obtain ⟨hresult, hleaves⟩ := ensure_of_no_build respond hmade hvalid hurl
          exact Or.inl ⟨⟨_, hleaves⟩, by simp [hresult]⟩
        | ok url =>
          exact Or.inr ⟨t, url, rfl, hvalid, rfl, ensure_of_build respond hmade hvalid hurl⟩

/-- A call makes the server directory and tries the path of its tag once. It answers that path as
an installed server exactly if the trial says so, and then it neither asks for the token, the host
and the release store nor reports anything. Otherwise it is a download from the address of the tag,
if there is a build for the host, and the download decides the answer. -/
theorem answer_of_call (a : Acquirer) (probe : Probe) (respond : String → Response) (root : String)
    (tag : Tag) (s : Transfer) :
    let r := a.ensure probe respond root tag s
    let dir := Release.serverDir root
    let path := a.installPath root tag
    Grown (steps dir) s.tree (s.tree.makeDirs a.workplace.key dir).1 ∧
      match s.tree.makeDirs a.workplace.key dir with
      | (t, some e) =>
        r.result = .error (.file "create directory" dir e) ∧ r.probed = [] ∧ LeavesOnly r s t ∧
          ∀ probe' respond', a.ensure probe' respond' root tag s = r
      | (t, none) =>
        a.destination s.tree root tag = (t, .ok path) ∧ r.probed = [path] ∧
          (∀ probe', probe' t path = probe t path → a.ensure probe' respond root tag s = r) ∧
          (∀ p, r.result = .ok (.cached p) ↔ (probe t path).verdict = .valid ∧ p = path) ∧
          ((probe t path).verdict = .valid →
            LeavesOnly r s (probe t path).tree ∧
              ∀ respond', a.ensure probe respond' root tag s = r) ∧
          ((probe t path).verdict ≠ .valid →
            match a.host.bind HostOs.build? with
            | none =>
              a.url tag = .error (.unsupportedPlatform ((a.host.map HostOs.name).getD a.os)) ∧
                r.result = .error (.unsupportedPlatform ((a.host.map HostOs.name).getD a.os)) ∧
                LeavesOnly r s (probe t path).tree ∧
                ∀ respond', a.ensure probe respond' root tag s = r
            | some build =>
              let url := Release.url a.config.releaseUrl a.config.artifact tag build
              a.url tag = .ok url ∧
                IsDownload a (respond url) url path (afterTrial s (probe t path)) r ∧
                (s.watch.fired = true →
                  r.result = .ok .cancelled ∧ r.transfer.tree = (probe t path).tree ∧
                    r.transfer.requests = s.requests ∧
                    r.transfer.events = s.events ++ [a.title]) ∧
                ∀ respond', respond' url = respond url →
                  a.ensure probe respond' root tag s = r) := by
  dsimp only
  refine ⟨(Grown.makeDirs s.tree _ _).mono List.filter_sublist.subset, ?_⟩
  cases hmade : s.tree.makeDirs a.workplace.key (Release.serverDir root) with
  | mk t fault =>
    cases fault with
    | some e =>
      rw [ensure_of_refused hmade]
      exact ⟨rfl, rfl, ⟨rfl, rfl, rfl⟩, fun _ _ => ensure_of_refused hmade⟩
    | none =>
      dsimp only
      refine ⟨destination_of_made hmade, probed_eq hmade, ?_, cached_iff hmade, ?_, ?_⟩
      · intro probe' hprobe
        exact ensure_congr hmade hprobe fun _ _ => rfl
      · intro hvalid
        rw [ensure_of_valid hmade hvalid]
        exact ⟨leavesOnly_afterTrial rfl, fun _ => ensure_of_valid hmade hvalid⟩
      · intro hnot
        cases hbuild : a.host.bind HostOs.build? with
        | none =>
          have hurl := url_of_no_build tag hbuild
          obtain ⟨hresult, hleaves⟩ := ensure_of_no_build respond hmade hnot hurl
          refine ⟨hurl, hresult, hleaves, fun respond' => ensure_congr hmade rfl fun url hok => ?_⟩
          rw [hurl] at hok
          cases hok
        | some build =>
          have hurl := url_of_build tag hbuild
          have hd := ensure_of_build respond hmade hnot hurl
          refine ⟨hurl, hd, ?_, fun respond' heq => ensure_congr hmade rfl ?_⟩
          · intro hf
            obtain ⟨hresult, htransfer⟩ := hd.fired (fired_afterTrial _ hf)
            rw [htransfer]
            exact ⟨hresult, rfl, rfl, rfl⟩
          · intro url hok
            rw [hurl] at hok
            rw [← Except.ok.inj hok]
            exact heq

/-- A host that no build is published for. -/
def foreign : Acquirer := { plain with host := some .freebsd }

def firedStart : Transfer := .start ⟨[(["root"], .dir)], []⟩ { before := true } false

/-- Neither the token nor the host keeps a call from answering a server that runs. -/
theorem installed_answers_on_foreign_host :
    foreign.host.bind HostOs.build? = none ∧ firedStart.watch.fired = true ∧
      (foreign.ensure (.always .valid) (fun _ => {}) "root" firstTag firedStart).result =
        .ok (.cached "root/server/prosemd-lsp-v1") ∧
      (foreign.ensure (.always .valid) (fun _ => {}) "root" firstTag firedStart).transfer.tree =
        ⟨[(["root"], .dir), (["server", "root"], .dir)], []⟩ := by
  have hmade : firedStart.tree.makeDirs foreign.workplace.key (Release.serverDir "root") =
      (⟨[(["root"], .dir), (["server", "root"], .dir)], []⟩, none) := by
    decide +kernel
  have hpath : "root/server/prosemd-lsp-v1" = foreign.installPath "root" firstTag := by
    decide +kernel
  obtain ⟨-, hcall⟩ :=
    answer_of_call foreign (.always .valid) (fun _ => {}) "root" firstTag firedStart
  rw [hmade] at hcall
  obtain ⟨-, -, -, hcached, hvalid, -⟩ := hcall
  exact ⟨rfl, rfl, (hcached _).2 ⟨rfl, hpath⟩, (hvalid rfl).1.tree⟩

end Acquirer

end ServerLauncher
