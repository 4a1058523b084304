import ServerLauncher.Download
import ServerLauncher.Proofs.Staging

/-!
The course of a download. It opens by staging a file, or ends before that. A body that is being
received then takes its steps one after another; every step but a change to the tree from outside
either goes on or ends the download, and an end that is no completion always passes the same way
out. So the tree at any time is decided by the steps that were taken.
-/

namespace ServerLauncher

/-- What a step of a response does to the tree. -/
def Staged.absorb (st : Staged) (cwd : Key) (t : Tree) : Step → Tree
  | .chunk bytes => st.write t bytes
  | .unwritten kept _ => st.write t kept
  | .change c => t.apply cwd c
  | _ => t

def Staged.absorbAll (st : Staged) (cwd : Key) (t : Tree) (steps : List Step) : Tree :=
  steps.foldl (st.absorb cwd) t

theorem Staged.absorbAll_append (st : Staged) (cwd : Key) (t : Tree) (as bs : List Step) :
    st.absorbAll cwd t (as ++ bs) = st.absorbAll cwd (st.absorbAll cwd t as) bs :=
  List.foldl_append ..

theorem Response.content_append (as bs : List Step) :
    content (as ++ bs) = content as ++ content bs :=
  List.flatMap_append ..

theorem Response.changes_append (as bs : List Step) :
    changes (as ++ bs) = changes as ++ changes bs :=
  List.filterMap_append ..

/-- No step ends a body before its end: no failure is sent, and every chunk can be written. -/
structure Response.Flows (steps : List Step) : Prop where
  unfailed : ∀ e, .fail e ∉ steps
  written : ∀ kept e, .unwritten kept e ∉ steps

theorem Response.flows_append {as bs : List Step} :
    Flows (as ++ bs) ↔ Flows as ∧ Flows bs := by
  constructor
  · intro h
    have hleft : ∀ {step}, step ∈ as → step ∈ as ++ bs := List.mem_append_left bs
    have hright : ∀ {step}, step ∈ bs → step ∈ as ++ bs := List.mem_append_right as
    constructor
    · exact ⟨fun e he => h.unfailed e (hleft he), fun kept e he => h.written kept e (hleft he)⟩
    · exact ⟨fun e he => h.unfailed e (hright he), fun kept e he => h.written kept e (hright he)⟩
  · rintro ⟨ha, hb⟩
    constructor
    · intro e he
      exact (List.mem_append.1 he).elim (ha.unfailed e) (hb.unfailed e)
    · intro kept e he
      exact (List.mem_append.1 he).elim (ha.written kept e) (hb.written kept e)

theorem Closing.action_of_fault? {c : Closing} {action : String} {e : FileError}
    (h : c.fault? = some (action, e)) : action = "flush" ∨ action = "sync" := by
  rcases Option.or_eq_some_iff.1 h with h | ⟨-, h⟩
  · obtain ⟨_, _, heq⟩ := Option.map_eq_some_iff.1 h
    exact Or.inl (Prod.mk.inj heq).1.symm
  · obtain ⟨_, _, heq⟩ := Option.map_eq_some_iff.1 h
    exact Or.inr (Prod.mk.inj heq).1.symm

theorem Watch.renew_fired (w : Watch) (stall : Nat) : (w.renew stall).fired = w.fired := rfl

namespace Download

namespace Reception

/-- Steps that are taken one after another while the body goes on. -/
inductive Course (j : Job) : Reception → List Step → Reception → Prop
  | nil (r : Reception) : Course j r [] r
  | cons {r r' r'' : Reception} {s : Step} {rest : List Step} :
      r.take j s = .go r' → Course j r' rest r'' → Course j r (s :: rest) r''

/-- The steps that are taken until the download ends. -/
def taken (j : Job) : Reception → List Step → List Step
  | _, [] => []
  | r, s :: rest =>
    match r.take j s with
    | .go r' => s :: taken j r' rest
    | .stop .. => [s]

variable {j : Job} {r r' : Reception} {s : Step} {ss : List Step}

theorem Course.run_append (h : Course j r ss r') (rest : List Step) :
    r.run j (ss ++ rest) = r'.run j rest := by
  induction h with
  | nil r => rfl
  | cons ht _ ih =>
    rw [List.cons_append, run, ht]
    exact ih

theorem Course.taken_append (h : Course j r ss r') (rest : List Step) :
    r.taken j (ss ++ rest) = ss ++ r'.taken j rest := by
  induction h with
  | nil r => rfl
  | cons ht _ ih =>
    rw [List.cons_append, taken, ht, List.cons_append]
    exact congrArg _ ih

/-- A body is received to its end, or some step ends the download. -/
theorem run_cases (j : Job) (r : Reception) (ss : List Step) :
    (∃ r', Course j r ss r' ∧ r.run j ss = r'.finish j ∧ r.taken j ss = ss) ∨
      ∃ pre s post r' t e, ss = pre ++ s :: post ∧ Course j r pre r' ∧
        r'.take j s = .stop t e ∧ r.run j ss = (t, e) ∧ r.taken j ss = pre ++ [s] := by
  induction ss generalizing r with
  | nil => exact Or.inl ⟨r, .nil r, rfl, rfl⟩
  | cons s rest ih =>
    cases ht : r.take j s with
    | stop t e =>
      exact Or.inr ⟨[], s, rest, r, t, e, rfl, .nil r, ht, by rw [run, ht], by rw [taken, ht]; rfl⟩
    | go r₁ =>
      have hrun : r.run j (s :: rest) = r₁.run j rest := by rw [run, ht]
      have htaken : r.taken j (s :: rest) = s :: r₁.taken j rest := by rw [taken, ht]
      rw [hrun, htaken]
      rcases ih r₁ with ⟨r', hc, hr, hk⟩ | ⟨pre, s', post, r', t, e, rfl, hc, hs, hr, hk⟩
      · exact Or.inl ⟨r', .cons ht hc, hr, by rw [hk]⟩
      · exact Or.inr ⟨s :: pre, s', post, r', t, e, rfl, .cons ht hc, hs, hr, by rw [hk]; rfl⟩

theorem taken_prefix (j : Job) (r : Reception) (ss : List Step) : r.taken j ss <+: ss := by
  rcases run_cases j r ss with ⟨_, _, _, h⟩ | ⟨pre, s, post, _, _, _, rfl, _, _, _, h⟩
  · exact ⟨[], by rw [h, List.append_nil]⟩
  · rw [h]
    exact ⟨post, by simp⟩

theorem report_getD (s : Transfer) (event : Option Progress.Event) :
    ((event.map s.report).getD s).tree = s.tree ∧
      ((event.map s.report).getD s).requests = s.requests := by
  cases event <;> exact ⟨rfl, rfl⟩

theorem keep_spec (r : Reception) (bytes : Bytes) :
    (r.keep bytes).transfer.tree = r.staged.write r.transfer.tree bytes ∧
      (r.keep bytes).transfer.requests = r.transfer.requests ∧
      (r.keep bytes).staged = r.staged ∧ (r.keep bytes).expected = r.expected ∧
      (r.keep bytes).received = r.received + bytes.length ∧
      (r.keep bytes).closing = r.closing :=
  ⟨(report_getD ..).1, (report_getD ..).2, rfl, rfl, rfl, rfl⟩

theorem await_go (h : r.await j = .go r') :
    r.transfer.watch.fired = false ∧
      ∃ w, w = r.transfer.watch.renew j.stallMillis ∧ r' = r.setWatch w := by
  unfold await at h
  split at h
  · cases h
  · rename_i hf
    exact ⟨by simpa using hf, _, rfl, (Turn.go.inj h).symm⟩

theorem await_stop {t : Transfer} {e : Ending} (h : r.await j = .stop t e) :
    r.transfer.watch.fired = true ∧ e = .cancelled ∧
      t = { r.transfer with tree := r.staged.discard r.transfer.tree j.workplace } := by
  unfold await at h
  split at h
  · rename_i hf
    obtain ⟨rfl, rfl⟩ := Turn.stop.inj h
    exact ⟨hf, rfl, rfl⟩
  · cases h

theorem interrupted_ne_completed (i : Interruption) (n : Nat) :
    interrupted j i ≠ .completed n := by
  cases i <;> simp [interrupted]

/-- Everything but the watch, the events and the tracker after a step that goes on. -/
theorem take_go (h : r.take j s = .go r') :
    r'.transfer.tree = r.staged.absorb j.workplace.key r.transfer.tree s ∧
      r'.transfer.requests = r.transfer.requests ∧ r'.staged = r.staged ∧
      r'.expected = r.expected ∧ r'.received = r.received + (Response.content [s]).length ∧
      Response.Flows [s] ∧ r'.closing = r.closing := by
  cases s with
  | chunk bytes =>
    rw [take] at h
    obtain ⟨htree, hreq, hst, hexp, hrec, hclosing⟩ := keep_spec r bytes
    obtain ⟨-, w, -, rfl⟩ := await_go h
    have hcontent : Response.content [.chunk bytes] = bytes := by simp [Response.content]
    refine ⟨htree, hreq, hst, hexp, ?_, ⟨by simp, by simp⟩, hclosing⟩
    rw [hcontent]
    exact hrec
  | unwritten kept e => cases h
  | fail e => cases h
  | wait millis =>
    simp only [take] at h
    split at h
    · obtain rfl := Turn.go.inj h
      exact ⟨rfl, rfl, rfl, rfl, by simp [Response.content, setWatch], ⟨by simp, by simp⟩, rfl⟩
    · cases h
  | hang => simp [take, stop] at h
  | cancel =>
    obtain rfl := Turn.go.inj h
    exact ⟨rfl, rfl, rfl, rfl, by simp [Response.content, setWatch], ⟨by simp, by simp⟩, rfl⟩
  | change c =>
    obtain rfl := Turn.go.inj h
    exact ⟨rfl, rfl, rfl, rfl, by simp [Response.content], ⟨by simp, by simp⟩, rfl⟩

/-- A step that ends the download leaves the staged file to be discarded. -/
theorem take_stop {t : Transfer} {e : Ending} (h : r.take j s = .stop t e) :
    t.tree = r.staged.discard (r.staged.absorb j.workplace.key r.transfer.tree s) j.workplace ∧
      t.requests = r.transfer.requests ∧ (∀ n, e ≠ .completed n) ∧ ∀ c, s ≠ .change c := by
  cases s with
  | chunk bytes =>
    rw [take] at h
    obtain ⟨htree, hreq, hst, -, -⟩ := keep_spec r bytes
    obtain ⟨-, rfl, rfl⟩ := await_stop h
    exact ⟨by rw [hst, htree]; rfl, hreq, by simp, by simp⟩
  | unwritten kept e =>
    obtain ⟨rfl, rfl⟩ := Turn.stop.inj h
    exact ⟨rfl, rfl, by simp, by simp⟩
  | fail e =>
    obtain ⟨rfl, rfl⟩ := Turn.stop.inj h
    exact ⟨rfl, rfl, by simp, by simp⟩
  | wait millis =>
    simp only [take] at h
    split at h
    · cases h
    · rename_i i _
      obtain ⟨rfl, rfl⟩ := Turn.stop.inj h
      exact ⟨rfl, rfl, interrupted_ne_completed i, by simp⟩
  | hang =>
    obtain ⟨rfl, rfl⟩ := Turn.stop.inj h
    exact ⟨rfl, rfl, interrupted_ne_completed _, by simp⟩
  | cancel => cases h
  | change c => cases h

/-- Everything but the watch, the events and the tracker after some steps. -/
theorem Course.spec (h : Course j r ss r') :
    r'.transfer.tree = r.staged.absorbAll j.workplace.key r.transfer.tree ss ∧
      r'.transfer.requests = r.transfer.requests ∧ r'.staged = r.staged ∧
      r'.expected = r.expected ∧ r'.received = r.received + (Response.content ss).length ∧
      Response.Flows ss ∧ r'.closing = r.closing := by
  induction h with
  | nil r => exact ⟨rfl, rfl, rfl, rfl, rfl, ⟨by simp, by simp⟩, rfl⟩
  | @cons r r₁ r' s rest ht _ ih =>
    obtain ⟨htree, hreq, hst, hexp, hrec, hflows, hclosing⟩ := take_go ht
    obtain ⟨htree', hreq', hst', hexp', hrec', hflows', hclosing'⟩ := ih
    refine ⟨?_, hreq'.trans hreq, hst'.trans hst, hexp'.trans hexp, ?_, ?_,
      hclosing'.trans hclosing⟩
    · rw [htree', hst, htree]
      rfl
    · have hcontent := Response.content_append [s] rest
      rw [List.singleton_append] at hcontent
      rw [hrec', hrec, hcontent, List.length_append, Nat.add_assoc]
    · exact Response.flows_append.2 ⟨hflows, hflows'⟩

/-- The reception when its end has been told of. -/
def told (r : Reception) : Reception :=
  { r with
    transfer := ((r.tracker.finish r.received).2.map r.transfer.report).getD r.transfer,
    tracker := (r.tracker.finish r.received).1 }

theorem told_tree (r : Reception) : r.told.transfer.tree = r.transfer.tree :=
  (report_getD ..).1

theorem fault?_eq_none_iff :
    r.fault? j = none ↔
      r.expected.filter (· != r.received) = none ∧ r.closing.fault? = none := by
  unfold fault?
  cases r.expected.filter (· != r.received) with
  | some n => simp
  | none => simp

theorem finish_eq (j : Job) (r : Reception) :
    r.finish j =
      match r.fault? j with
      | some e => r.abandon j (.failed e)
      | none =>
        match r.staged.commit r.told.transfer.tree j.workplace j.destination with
        | .ok t => ({ r.told.transfer with tree := t }, .completed r.received)
        | .error e => r.told.abandon j (.failed (.file "move download to" j.destination e)) :=
  rfl

theorem finish_cases (j : Job) (r : Reception) :
    (∃ e s', r.fault? j = some e ∧ r.finish j = (s', .failed e) ∧
        s'.tree = r.staged.discard r.transfer.tree j.workplace) ∨
      r.fault? j = none ∧
        ((∃ s', r.finish j = (s', .completed r.received) ∧
            r.staged.commit r.transfer.tree j.workplace j.destination = .ok s'.tree) ∨
          ∃ s' e, r.finish j =
              (s', .failed (.file "move download to" j.destination e)) ∧
            r.staged.commit r.transfer.tree j.workplace j.destination = .error e ∧
            s'.tree = r.staged.discard r.transfer.tree j.workplace) := by
  rw [finish_eq, r.told_tree]
  cases r.fault? j with
  | some e => exact Or.inl ⟨e, _, rfl, rfl, rfl⟩
  | none =>
    refine Or.inr ⟨rfl, ?_⟩
    cases r.staged.commit r.transfer.tree j.workplace j.destination with
    | ok t => exact Or.inl ⟨_, rfl, rfl⟩
    | error e =>
      have htree := congrArg (r.staged.discard · j.workplace) r.told_tree
      exact Or.inr ⟨_, e, rfl, rfl, htree⟩

theorem run_requests (j : Job) (r : Reception) (ss : List Step) :
    (r.run j ss).1.requests = r.transfer.requests := by
  induction ss generalizing r with
  | nil =>
    have htold : r.told.transfer.requests = r.transfer.requests := (report_getD ..).2
    rw [run, finish_eq]
    split
    · rfl
    · split
      · exact htold
      · exact htold
  | cons s rest ih =>
    rw [run]
    split
    · rename_i r' hgo
      exact (ih r').trans (take_go hgo).2.1
    · rename_i t e hstop
      exact (take_stop hstop).2.1

end Reception

/-- A file is staged for a body that has been announced, and its first chunk is waited for. -/
def staging (j : Job) (response : Response) (dir : String) (s : Transfer) : Turn :=
  match Staged.create s.tree j.workplace dir with
  | .error e => .stop s (.failed (.file "create temporary file in" dir e))
  | .ok (t, staged) =>
    Reception.await
      { transfer := { s with tree := t }, staged, expected := response.length,
        tracker := .start response.length, closing := response.closing } j

/-- The download up to the first wait for a chunk. -/
def opening (j : Job) (response : Response) (s : Transfer) : Turn :=
  match FilePath.parent? j.destination with
  | none => .stop s (.failed (.file "resolve the directory of" j.destination .noParent))
  | some dir =>
    if s.watch.fired then .stop s .cancelled
    else
      match fetch j response s with
      | (s, some e) => .stop s e
      | (s, none) => staging j response dir s

/-- The steps of the response that are taken until the download ends. -/
def taken (j : Job) (response : Response) (s : Transfer) : List Step :=
  match opening j response s with
  | .go r => r.taken j response.steps
  | .stop .. => []

/-- The body is being received, and these steps have been taken. -/
def Midway (j : Job) (response : Response) (s : Transfer) (pre : List Step) (r : Reception) :
    Prop :=
  ∃ r₀, opening j response s = .go r₀ ∧ r₀.Course j pre r

variable {j : Job} {response : Response} {s : Transfer}

theorem receive_eq (j : Job) (response : Response) (dir : String) (s : Transfer) :
    receive j response dir s =
      match staging j response dir s with
      | .go r => r.run j response.steps
      | .stop s e => (s, e) := by
  unfold receive staging
  generalize Staged.create s.tree j.workplace dir = made
  cases made with
  | error e => rfl
  | ok fresh => rfl

theorem run_eq (j : Job) (response : Response) (s : Transfer) :
    run j response s =
      match opening j response s with
      | .go r => r.run j response.steps
      | .stop s e => (s, e) := by
  unfold run opening
  cases FilePath.parent? j.destination with
  | none => rfl
  | some dir =>
    dsimp only
    by_cases hf : s.watch.fired
    · rw [if_pos hf, if_pos hf]
    · rw [if_neg hf, if_neg hf]
      generalize fetch j response s = fetched
      obtain ⟨s₁, ending⟩ := fetched
      cases ending with
      | some e => rfl
      | none =>
        dsimp only
        exact receive_eq j response dir s₁

theorem fetch_spec (j : Job) (response : Response) (s : Transfer) :
    (fetch j response s).1.tree = s.tree ∧
      (fetch j response s).1.requests = s.requests ++ [j.url] ∧
      ∀ e n, (fetch j response s).2 = some e → e ≠ .completed n := by
  unfold fetch
  generalize s.watch.renew j.stallMillis = w
  dsimp only
  generalize w.pass response.delay = passed
  obtain ⟨w₁, interruption⟩ := passed
  cases interruption with
  | some i =>
    refine ⟨rfl, rfl, ?_⟩
    intro e n he
    exact Option.some.inj he ▸ Reception.interrupted_ne_completed i n
  | none =>
    dsimp only
    cases response.answer with
    | body => exact ⟨rfl, rfl, by simp⟩
    | fail error =>
      refine ⟨rfl, rfl, ?_⟩
      intro e n he
      rw [← Option.some.inj he]
      simp
    | hang =>
      refine ⟨rfl, rfl, ?_⟩
      intro e n he
      exact Option.some.inj he ▸ Reception.interrupted_ne_completed _ n

theorem staging_with_steps (dir : String) (steps : List Step) :
    staging j { response with steps } dir s = staging j response dir s := by
  unfold staging
  generalize Staged.create s.tree j.workplace dir = made
  cases made <;> rfl

theorem opening_with_steps (steps : List Step) :
    opening j { response with steps } s = opening j response s := by
  have hfetch : fetch j { response with steps } s = fetch j response s := by
    unfold fetch
    rfl
  unfold opening
  rw [hfetch]
  simp only [staging_with_steps]

theorem opening_of_refused {dir : String} {s₁ : Transfer} {e : Ending}
    (hdir : FilePath.parent? j.destination = some dir) (hnot : s.watch.fired = false)
    (hfetch : fetch j response s = (s₁, some e)) : opening j response s = .stop s₁ e := by
  unfold opening
  rw [hdir]
  dsimp only
  rw [hnot, if_neg Bool.false_ne_true, hfetch]

theorem opening_of_answered {dir : String} {s₁ : Transfer}
    (hdir : FilePath.parent? j.destination = some dir) (hnot : s.watch.fired = false)
    (hfetch : fetch j response s = (s₁, none)) :
    opening j response s = staging j response dir s₁ := by
  unfold opening
  rw [hdir]
  dsimp only
  rw [hnot, if_neg Bool.false_ne_true, hfetch]

theorem opening_stop {s' : Transfer} {e : Ending} (h : opening j response s = .stop s' e) :
    s'.tree = s.tree ∧ ∀ n, e ≠ .completed n := by
  unfold opening at h
  split at h
  · obtain ⟨rfl, rfl⟩ := Turn.stop.inj h
    exact ⟨rfl, by simp⟩
  · split at h
    · obtain ⟨rfl, rfl⟩ := Turn.stop.inj h
      exact ⟨rfl, by simp⟩
    · obtain ⟨htree, -, hne⟩ := fetch_spec j response s
      split at h
      · rename_i s₁ e₁ hfetch
        obtain ⟨rfl, rfl⟩ := Turn.stop.inj h
        rw [hfetch] at htree hne
        exact ⟨htree, fun n => hne e₁ n rfl⟩
      · rename_i dir _ _ s₁ hfetch
        rw [hfetch] at htree
        unfold staging at h
        split at h
        · obtain ⟨rfl, rfl⟩ := Turn.stop.inj h
          exact ⟨htree, by simp⟩
        · rename_i t st hmade
          obtain ⟨-, rfl, rfl⟩ := Reception.await_stop h
          obtain ⟨d, -, hst, hreach, hbeside⟩ := Staged.create_eq_ok hmade
          refine ⟨?_, by simp⟩
          rw [← htree]
          refine (Staged.discard_eq hbeside hst).2 fun hs => hs.2 ?_
          exact (Staged.isReachable_iff hbeside hst).2 hreach

/-- A download that has opened holds a staged file beside the tree it found. -/
theorem opening_go {r : Reception} (h : opening j response s = .go r) :
    ∃ dir, FilePath.parent? j.destination = some dir ∧ s.watch.fired = false ∧
      (fetch j response s).2 = none ∧
      Staged.create s.tree j.workplace dir = .ok (r.transfer.tree, r.staged) ∧
      r.transfer.requests = s.requests ++ [j.url] ∧ r.expected = response.length ∧
      r.received = 0 ∧ r.transfer.watch.fired = false ∧ r.closing = response.closing := by
  unfold opening at h
  split at h
  · cases h
  · rename_i dir hdir
    split at h
    · cases h
    · rename_i hfired
      obtain ⟨htree, hreq, -⟩ := fetch_spec j response s
      split at h
      · cases h
      · rename_i s₁ hfetch
        rw [hfetch] at htree hreq
        unfold staging at h
        split at h
        · cases h
        · rename_i t st hmade
          obtain ⟨hnot, w, hw, rfl⟩ := Reception.await_go h
          have hwatch : w.fired = false := by rw [hw, Watch.renew_fired, hnot]
          refine ⟨dir, hdir, by simpa using hfired, by rw [hfetch], ?_, hreq, rfl, rfl, hwatch, rfl⟩
          rw [← htree]
          exact hmade

theorem Midway.run_eq {pre post : List Step} {r : Reception} (h : Midway j response s pre r)
    (hsteps : response.steps = pre ++ post) : run j response s = r.run j post := by
  obtain ⟨r₀, hopen, hcourse⟩ := h
  rw [Download.run_eq, hopen, hsteps]
  exact hcourse.run_append post

theorem Midway.with_steps {pre : List Step} {r : Reception} (h : Midway j response s pre r)
    (steps : List Step) : Midway j { response with steps } s pre r := by
  obtain ⟨r₀, hopen, hcourse⟩ := h
  exact ⟨r₀, (opening_with_steps steps).trans hopen, hcourse⟩

theorem Midway.taken_eq {pre post : List Step} {r : Reception} (h : Midway j response s pre r)
    (hsteps : response.steps = pre ++ post) : taken j response s = pre ++ r.taken j post := by
  obtain ⟨r₀, hopen, hcourse⟩ := h
  rw [taken, hopen, hsteps]
  exact hcourse.taken_append post

/-- A download ends as it opens, or at the end of the body, or at some step of it. -/
theorem run_cases (j : Job) (response : Response) (s : Transfer) :
    (∃ s' e, opening j response s = .stop s' e ∧ run j response s = (s', e) ∧
        taken j response s = []) ∨
      (∃ r, Midway j response s response.steps r ∧ run j response s = r.finish j ∧
        taken j response s = response.steps) ∨
      ∃ pre step post r s' e, response.steps = pre ++ step :: post ∧
        Midway j response s pre r ∧ r.take j step = .stop s' e ∧
        run j response s = (s', e) ∧ taken j response s = pre ++ [step] := by
  rw [run_eq, taken]
  cases h : opening j response s with
  | stop s' e => exact Or.inl ⟨s', e, rfl, rfl, rfl⟩
  | go r₀ =>
    apply Or.inr
    rcases Reception.run_cases j r₀ response.steps with
      ⟨r, hc, hr, hk⟩ | ⟨pre, step, post, r, s', e, hs, hc, ht, hr, hk⟩
    · exact Or.inl ⟨r, ⟨r₀, h, hc⟩, hr, hk⟩
    · exact Or.inr ⟨pre, step, post, r, s', e, hs, ⟨r₀, h, hc⟩, ht, hr, hk⟩

theorem taken_prefix (j : Job) (response : Response) (s : Transfer) :
    taken j response s <+: response.steps := by
  unfold taken
  split
  · exact Reception.taken_prefix j _ response.steps
  · exact List.nil_prefix

/-- A download that does not complete either has staged nothing or discards what it has staged. -/
theorem tree_of_not_completed {s' : Transfer} {e : Ending} (h : run j response s = (s', e))
    (hne : ∀ n, e ≠ .completed n) :
    (opening j response s = .stop s' e ∧ s'.tree = s.tree ∧ taken j response s = []) ∨
      ∃ r, opening j response s = .go r ∧
        s'.tree = r.staged.discard (r.staged.absorbAll j.workplace.key r.transfer.tree
          (taken j response s)) j.workplace := by
  rcases run_cases j response s with ⟨s₁, e₁, ho, hr, hk⟩ | ⟨r, ⟨r₀, ho, hc⟩, hr, hk⟩ |
    ⟨pre, step, post, r, s₁, e₁, -, ⟨r₀, ho, hc⟩, ht, hr, hk⟩
  · obtain ⟨rfl, rfl⟩ := Prod.mk.inj (hr.symm.trans h)
    exact Or.inl ⟨ho, (opening_stop ho).1, hk⟩
  · refine Or.inr ⟨r₀, ho, ?_⟩
    obtain ⟨htree, -, hst, -⟩ := hc.spec
    rw [hk, ← htree, ← hst]
    rw [hr] at h
    rcases r.finish_cases j with ⟨e, s₁, -, hf, hd⟩ | ⟨-, ⟨s₁, hf, -⟩ | ⟨s₁, e₁, hf, -, hd⟩⟩
    · obtain ⟨rfl, -⟩ := Prod.mk.inj (hf.symm.trans h)
      exact hd
    · obtain ⟨-, he⟩ := Prod.mk.inj (hf.symm.trans h)
      exact absurd he.symm (hne _)
    · obtain ⟨rfl, -⟩ := Prod.mk.inj (hf.symm.trans h)
      exact hd
  · refine Or.inr ⟨r₀, ho, ?_⟩
    obtain ⟨htree, -, hst, -⟩ := hc.spec
    obtain ⟨rfl, rfl⟩ := Prod.mk.inj (hr.symm.trans h)
    rw [hk, Staged.absorbAll_append, ← htree, ← hst]
    exact (Reception.take_stop ht).1

/-- A download that completes has received the whole body and moved the staged file. -/
theorem completed_cases {s' : Transfer} {n : Nat} (h : run j response s = (s', .completed n)) :
    ∃ r, Midway j response s response.steps r ∧ taken j response s = response.steps ∧
      n = r.received ∧ r.fault? j = none ∧
      r.staged.commit r.transfer.tree j.workplace j.destination = .ok s'.tree := by
  rcases run_cases j response s with ⟨s₁, e₁, ho, hr, -⟩ | ⟨r, hmid, hr, hk⟩ |
    ⟨pre, step, post, r, s₁, e₁, -, -, ht, hr, -⟩
  · obtain ⟨-, rfl⟩ := Prod.mk.inj (hr.symm.trans h)
    exact absurd rfl ((opening_stop ho).2 n)
  · refine ⟨r, hmid, hk, ?_⟩
    rw [hr] at h
    rcases r.finish_cases j with ⟨e, s₁, -, hf, -⟩ | ⟨hgood, ⟨s₁, hf, hc⟩ | ⟨s₁, e₁, hf, -, -⟩⟩
    · exact Ending.noConfusion (Prod.mk.inj (hf.symm.trans h)).2
    · obtain ⟨rfl, he⟩ := Prod.mk.inj (hf.symm.trans h)
      exact ⟨(Ending.completed.inj he).symm, hgood, hc⟩
    · exact Ending.noConfusion (Prod.mk.inj (hf.symm.trans h)).2
  · obtain ⟨-, rfl⟩ := Prod.mk.inj (hr.symm.trans h)
    exact absurd rfl ((Reception.take_stop ht).2.2.1 n)

end Download

end ServerLauncher
