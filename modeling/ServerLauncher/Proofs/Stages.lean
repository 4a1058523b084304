import ServerLauncher.Proofs.Completion

/-!
A download in small steps. Each step does at most one thing to the tree: it stages the file, adds a
chunk, moves the file or removes it. What the download comes to is the same after each step, and
there is a bound for the number of steps. While nobody else touches the staged file it holds what
has been received, and only a whole body is moved.
-/

namespace ServerLauncher

/-- The body comes to its end, and it has the announced length. -/
structure Response.IsWhole (response : Response) : Prop where
  flows : Response.Flows response.steps
  length : response.length = none ∨
    response.length = some (Response.content response.steps).length

/-- The staged file after a step that changes nothing from outside. -/
theorem Staged.get?_absorb (cwd : Key) {st : Staged} {u : Tree} {mode : Nat} {content : Bytes}
    {step : Step} (h : u.get? st.key = some (.file mode content)) (hstep : ∀ c, step ≠ .change c) :
    (st.absorb cwd u step).get? st.key =
      some (.file mode (content ++ Response.content [step])) := by
  cases step with
  | chunk bytes => simp [absorb, write, Tree.append, Tree.get?_modify, h, Response.content]
  | unwritten kept e =>
    simp [absorb, write, Tree.append, Tree.get?_modify, h, Response.content]
  | change c => exact absurd rfl (hstep c)
  | _ => simp [absorb, h, Response.content]

namespace Download

/-- How far a download has come. -/
inductive Stage where
  | called (s : Transfer)
  | answered (dir : String) (s : Transfer)
  | waiting (r : Reception) (rest : List Step)
  | receiving (r : Reception) (rest : List Step)
  | leaving (r : Reception) (e : Ending)
  | ended (s : Transfer) (e : Ending)
  deriving DecidableEq, Repr

def request (j : Job) (response : Response) (s : Transfer) : Stage :=
  match FilePath.parent? j.destination with
  | none => .ended s (.failed (.file "resolve the directory of" j.destination .noParent))
  | some dir =>
    if s.watch.fired then .ended s .cancelled
    else
      match fetch j response s with
      | (s, some e) => .ended s e
      | (s, none) => .answered dir s

def stage (j : Job) (response : Response) (dir : String) (s : Transfer) : Stage :=
  match Staged.create s.tree j.workplace dir with
  | .error e => .ended s (.failed (.file "create temporary file in" dir e))
  | .ok (t, staged) =>
    .waiting
      { transfer := { s with tree := t }, staged, expected := response.length,
        tracker := .start response.length, closing := response.closing }
      response.steps

namespace Reception

/-- The token is looked at before the next chunk is waited for. -/
def look (r : Reception) (j : Job) (rest : List Step) : Stage :=
  if r.transfer.watch.fired then .leaving r .cancelled
  else .receiving (r.setWatch (r.transfer.watch.renew j.stallMillis)) rest

/-- One step of the response is taken. -/
def follow (r : Reception) (j : Job) (rest : List Step) : Step → Stage
  | .chunk bytes => .waiting (r.keep bytes) rest
  | .unwritten kept e => .leaving (r.keepPart kept) (.failed (r.fileFault j "write to" e))
  | .fail error => .leaving r (.failed (.transport error))
  | .wait millis =>
    match r.transfer.watch.pass millis with
    | (w, none) => .receiving (r.setWatch w) rest
    | (w, some i) => .leaving (r.setWatch w) (interrupted j i)
  | .hang =>
    let (w, i) := r.transfer.watch.hang
    .leaving (r.setWatch w) (interrupted j i)
  | .cancel => .receiving (r.setWatch r.transfer.watch.fire) rest
  | .change c =>
    .receiving
      { r with transfer := { r.transfer with tree := r.transfer.tree.apply j.workplace.key c } }
      rest

def close (r : Reception) (j : Job) : Stage :=
  match r.fault? j with
  | some e => .leaving r (.failed e)
  | none =>
    match r.staged.commit r.transfer.tree j.workplace j.destination with
    | .ok t => .ended { r.told.transfer with tree := t } (.completed r.received)
    | .error e => .leaving r.told (.failed (.file "move download to" j.destination e))

end Reception

namespace Stage

def transfer : Stage → Transfer
  | called s => s
  | answered _ s => s
  | waiting r _ => r.transfer
  | receiving r _ => r.transfer
  | leaving r _ => r.transfer
  | ended s _ => s

/-- The stage as it finds a tree. -/
def withTree (t : Tree) : Stage → Stage
  | called s => called { s with tree := t }
  | answered up s => answered up { s with tree := t }
  | waiting r rest => waiting { r with transfer := { r.transfer with tree := t } } rest
  | receiving r rest => receiving { r with transfer := { r.transfer with tree := t } } rest
  | leaving r e => leaving { r with transfer := { r.transfer with tree := t } } e
  | ended s e => ended { s with tree := t } e

/-- The staged file, from its making until it is moved or removed. -/
def staged? : Stage → Option Staged
  | waiting r _ => some r.staged
  | receiving r _ => some r.staged
  | leaving r _ => some r.staged
  | _ => none

def isCompleted : Stage → Bool
  | ended _ (.completed _) => true
  | _ => false

/-- The step that comes next. -/
def next (j : Job) (response : Response) : Stage → Stage
  | called s => request j response s
  | answered up s => stage j response up s
  | waiting r rest => r.look j rest
  | receiving r (step :: rest) => r.follow j rest step
  | receiving r [] => r.close j
  | leaving r e => ended (r.abandon j e).1 (r.abandon j e).2
  | ended s e => ended s e

/-- What a download comes to from a stage on. -/
def result (j : Job) (response : Response) : Stage → Transfer × Ending
  | called s => run j response s
  | answered dir s => receive j response dir s
  | waiting r rest =>
    match r.await j with
    | .go r => r.run j rest
    | .stop s e => (s, e)
  | receiving r rest => r.run j rest
  | leaving r e => r.abandon j e
  | ended s e => (s, e)

/-- A bound for the number of steps to the end. -/
def left (response : Response) : Stage → Nat
  | called _ => 2 * response.steps.length + 5
  | answered .. => 2 * response.steps.length + 4
  | waiting _ rest => 2 * rest.length + 3
  | receiving _ rest => 2 * rest.length + 2
  | leaving .. => 1
  | ended .. => 0

end Stage

variable {j : Job} {response : Response} {s : Transfer} {dir : String} {r : Reception}
  {step : Step} {rest : List Step}

theorem request_cases (j : Job) (response : Response) (s : Transfer) :
    ∃ s', s'.tree = s.tree ∧
      ((∃ e, request j response s = .ended s' e ∧ ∀ n, e ≠ .completed n) ∨
        ∃ dir, FilePath.parent? j.destination = some dir ∧
          request j response s = .answered dir s') := by
  unfold request
  cases FilePath.parent? j.destination with
  | none => exact ⟨s, rfl, Or.inl ⟨_, rfl, by simp⟩⟩
  | some dir =>
    dsimp only
    split
    · exact ⟨s, rfl, Or.inl ⟨_, rfl, by simp⟩⟩
    · obtain ⟨htree, -, hne⟩ := fetch_spec j response s
      generalize fetch j response s = fetched at htree hne
      obtain ⟨s', ending⟩ := fetched
      cases ending with
      | some e => exact ⟨s', htree, Or.inl ⟨e, rfl, fun n => hne e n rfl⟩⟩
      | none => exact ⟨s', htree, Or.inr ⟨dir, rfl, rfl⟩⟩

theorem stage_cases (j : Job) (response : Response) (dir : String) (s : Transfer) :
    (∃ e, stage j response dir s =
        .ended s (.failed (.file "create temporary file in" dir e))) ∨
      ∃ t st, Staged.create s.tree j.workplace dir = .ok (t, st) ∧
        stage j response dir s =
          .waiting
            { transfer := { s with tree := t }, staged := st, expected := response.length,
              tracker := .start response.length, closing := response.closing }
            response.steps := by
  unfold stage
  generalize Staged.create s.tree j.workplace dir = made
  cases made with
  | error e => exact Or.inl ⟨e, rfl⟩
  | ok fresh => exact Or.inr ⟨fresh.1, fresh.2, rfl, rfl⟩

namespace Reception

/-- The reception but for its watch, its events and its tracker. -/
structure Continues (r r' : Reception) (t : Tree) (received : Nat) : Prop where
  tree : r'.transfer.tree = t
  staged : r'.staged = r.staged
  expected : r'.expected = r.expected
  received : r'.received = received

theorem continues_setWatch (r : Reception) (w : Watch) :
    r.Continues (r.setWatch w) r.transfer.tree r.received :=
  ⟨rfl, rfl, rfl, rfl⟩

theorem look_cases (r : Reception) (j : Job) (rest : List Step) :
    r.look j rest = .leaving r .cancelled ∨
      ∃ w, r.look j rest = .receiving (r.setWatch w) rest := by
  unfold look
  split
  · exact Or.inl rfl
  · exact Or.inr ⟨_, rfl⟩

/-- A step that changes nothing from outside only adds a chunk, or what of it can be written. -/
theorem follow_cases (r : Reception) (j : Job) (rest : List Step) (hstep : ∀ c, step ≠ .change c) :
    ∃ r' received,
      r.Continues r' (r.staged.absorb j.workplace.key r.transfer.tree step) received ∧
        (Response.Flows [step] ∧ received = r.received + (Response.content [step]).length ∧
            (r.follow j rest step = .waiting r' rest ∨
              r.follow j rest step = .receiving r' rest) ∨
          ∃ e, r.follow j rest step = .leaving r' e ∧ ∀ n, e ≠ .completed n) := by
  cases step with
  | chunk bytes =>
    obtain ⟨htree, -, hst, hexp, hrec, -⟩ := r.keep_spec bytes
    have hcontent : Response.content [.chunk bytes] = bytes := List.append_nil bytes
    rw [hcontent]
    exact ⟨r.keep bytes, _, ⟨htree, hst, hexp, hrec⟩,
      Or.inl ⟨⟨by simp, by simp⟩, rfl, Or.inl rfl⟩⟩
  | unwritten kept e =>
    exact ⟨r.keepPart kept, _, ⟨rfl, rfl, rfl, rfl⟩, Or.inr ⟨_, rfl, by simp⟩⟩
  | fail error => exact ⟨r, _, ⟨rfl, rfl, rfl, rfl⟩, Or.inr ⟨_, rfl, by simp⟩⟩
  | wait millis =>
    simp only [follow]
    generalize r.transfer.watch.pass millis = passed
    obtain ⟨w, interruption⟩ := passed
    refine ⟨r.setWatch w, _, r.continues_setWatch w, ?_⟩
    cases interruption with
    | none => exact Or.inl ⟨⟨by simp, by simp⟩, rfl, Or.inr rfl⟩
    | some i => exact Or.inr ⟨_, rfl, interrupted_ne_completed i⟩
  | hang =>
    exact ⟨_, _, r.continues_setWatch _, Or.inr ⟨_, rfl, interrupted_ne_completed _⟩⟩
  | cancel =>
    exact ⟨_, _, r.continues_setWatch _, Or.inl ⟨⟨by simp, by simp⟩, rfl, Or.inr rfl⟩⟩
  | change c => exact absurd rfl (hstep c)

theorem close_cases (r : Reception) (j : Job) :
    (∃ r' e, r.Continues r' r.transfer.tree r.received ∧ r.close j = .leaving r' e ∧
        ∀ n, e ≠ .completed n) ∨
      ∃ t, r.fault? j = none ∧
        r.staged.commit r.transfer.tree j.workplace j.destination = .ok t ∧
        r.close j = .ended { r.told.transfer with tree := t } (.completed r.received) := by
  unfold close
  cases r.fault? j with
  | some e => exact Or.inl ⟨r, _, ⟨rfl, rfl, rfl, rfl⟩, rfl, by simp⟩
  | none =>
    dsimp only
    generalize r.staged.commit r.transfer.tree j.workplace j.destination = moved
    cases moved with
    | ok t => exact Or.inr ⟨t, rfl, rfl, rfl⟩
    | error e => exact Or.inl ⟨r.told, _, ⟨r.told_tree, rfl, rfl, rfl⟩, rfl, by simp⟩

end Reception

namespace Stage

theorem exists_ended {g : Stage} (h : g.left response = 0) : ∃ s e, g = ended s e := by
  cases g <;> simp [left] at h ⊢

theorem left_next (g : Stage) : (g.next j response).left response ≤ g.left response - 1 := by
  cases g with
  | called s =>
    rw [next]
    obtain ⟨s', -, ⟨e, heq, -⟩ | ⟨dir, -, heq⟩⟩ := request_cases j response s
    · rw [heq]
      exact Nat.zero_le _
    · rw [heq]
      exact Nat.le_refl _
  | answered dir s =>
    rw [next]
    rcases stage_cases j response dir s with ⟨e, heq⟩ | ⟨t, st, -, heq⟩
    · rw [heq]
      exact Nat.zero_le _
    · rw [heq]
      exact Nat.le_refl _
  | waiting r rest =>
    rw [next]
    rcases r.look_cases j rest with heq | ⟨w, heq⟩
    · rw [heq]
      simp only [left]
      omega
    · rw [heq]
      exact Nat.le_refl _
  | receiving r rest =>
    cases rest with
    | nil =>
      rw [next]
      rcases r.close_cases j with ⟨r', e, -, heq, -⟩ | ⟨t, -, -, heq⟩
      · rw [heq]
        exact Nat.le_refl _
      · rw [heq]
        exact Nat.zero_le _
    | cons step rest =>
      have hbound : (r.follow j rest step).left response ≤ 2 * rest.length + 3 := by
        by_cases hstep : ∃ c, step = .change c
        · obtain ⟨c, rfl⟩ := hstep
          exact Nat.le_succ _
        · obtain ⟨r', -, -, ⟨-, -, heq | heq⟩ | ⟨e, heq, -⟩⟩ :=
            r.follow_cases j rest fun c hc => hstep ⟨c, hc⟩
          all_goals
            rw [heq]
            simp only [left]
            omega
      have hleft : (receiving r (step :: rest)).left response = 2 * (rest.length + 1) + 2 := rfl
      rw [next, hleft]
      omega
  | leaving r e => exact Nat.le_refl _
  | ended s e => exact Nat.le_refl _

theorem result_next (g : Stage) : (g.next j response).result j response = g.result j response := by
  cases g with
  | called s =>
    change (request j response s).result j response = run j response s
    unfold request run
    cases FilePath.parent? j.destination with
    | none => rfl
    | some dir =>
      dsimp only
      by_cases hf : s.watch.fired = true
      · rw [if_pos hf, if_pos hf]
        rfl
      · rw [if_neg hf, if_neg hf]
        generalize fetch j response s = fetched
        obtain ⟨s', ending⟩ := fetched
        cases ending <;> rfl
  | answered dir s =>
    change (stage j response dir s).result j response = receive j response dir s
    unfold stage receive
    generalize Staged.create s.tree j.workplace dir = made
    cases made <;> rfl
  | waiting r rest =>
    change (r.look j rest).result j response = (waiting r rest).result j response
    rw [result, Reception.look, Reception.await]
    by_cases hf : r.transfer.watch.fired = true
    · rw [if_pos hf, if_pos hf]
      rfl
    · rw [if_neg hf, if_neg hf]
      rfl
  | receiving r rest =>
    cases rest with
    | nil =>
      rw [next, Reception.close, result, Reception.run, Reception.finish_eq, r.told_tree]
      cases r.fault? j with
      | some e => rfl
      | none =>
        dsimp only
        generalize r.staged.commit r.transfer.tree j.workplace j.destination = moved
        cases moved <;> rfl
    | cons step rest =>
      rw [next, result, Reception.run]
      cases step with
      | wait millis =>
        rw [Reception.follow, Reception.take]
        generalize r.transfer.watch.pass millis = passed
        obtain ⟨w, interruption⟩ := passed
        cases interruption <;> rfl
      | chunk bytes => rfl
      | unwritten kept e => rfl
      | fail error => rfl
      | hang => rfl
      | cancel => rfl
      | change c => rfl
  | leaving r e => rfl
  | ended s e => rfl

end Stage

/-- The staged file holds what has been received when the steps `rest` are still to be taken. -/
structure Reception.Stands (r : Reception) (response : Response) (rest : List Step) (u : Tree) :
    Prop where
  expected : r.expected = response.length
  taken : ∃ pre, response.steps = pre ++ rest ∧ Response.Flows pre ∧
    r.received = (Response.content pre).length ∧
    u.get? r.staged.key = some (.file Staged.mode (Response.content pre))

theorem Reception.Stands.file {u : Tree} (h : r.Stands response rest u) :
    ∃ content, u.get? r.staged.key = some (.file Staged.mode content) := by
  obtain ⟨pre, -, -, -, hget⟩ := h.taken
  exact ⟨_, hget⟩

namespace Stage

/-- What is known of a stage in a tree where nobody else has touched the staged file. -/
def Fits (j : Job) (response : Response) (u : Tree) : Stage → Prop
  | called _ => True
  | answered up _ => FilePath.parent? j.destination = some up
  | waiting r rest => r.Stands response rest u
  | receiving r rest => r.Stands response rest u
  | leaving r e =>
    (∃ content, u.get? r.staged.key = some (.file Staged.mode content)) ∧
      ∀ n, e ≠ .completed n
  | ended _ e =>
    ∀ n, e = .completed n → response.IsWhole ∧ n = (Response.content response.steps).length

/-- What a step does to the tree, and to the staged file of its download. -/
inductive Effect (j : Job) (response : Response) (g g' : Stage) : Prop
  | still (tree : g'.transfer.tree = g.transfer.tree) (staged : g'.staged? = g.staged?)
      (completed : g'.isCompleted = g.isCompleted)
  | made {up : String} {s : Transfer} {st : Staged} (stage : g = answered up s)
      (create : Staged.create s.tree j.workplace up = .ok (g'.transfer.tree, st))
      (staged : g'.staged? = some st) (completed : g'.isCompleted = false)
  | written {st : Staged} {bytes : Bytes} (before : g.staged? = some st)
      (tree : g'.transfer.tree = st.write g.transfer.tree bytes) (staged : g'.staged? = some st)
      (completed : g'.isCompleted = false)
  | moved {st : Staged} (before : g.staged? = some st)
      (whole : g.transfer.tree.get? st.key =
        some (.file Staged.mode (Response.content response.steps)))
      (commit : st.commit g.transfer.tree j.workplace j.destination = .ok g'.transfer.tree)
      (staged : g'.staged? = none) (completed : g'.isCompleted = true)
  | removed {st : Staged} (before : g.staged? = some st)
      (tree : g'.transfer.tree = st.discard g.transfer.tree j.workplace)
      (staged : g'.staged? = none) (completed : g'.isCompleted = false)

variable {g : Stage} {u : Tree} {e : Ending}

theorem isCompleted_ended (h : ∀ n, e ≠ .completed n) (s : Transfer) :
    (ended s e).isCompleted = false := by
  cases e with
  | completed n => exact absurd rfl (h n)
  | cancelled => rfl
  | failed error => rfl

theorem isCompleted_of_staged {st : Staged} (h : g.staged? = some st) : g.isCompleted = false := by
  cases g with
  | ended s e => cases h
  | _ => rfl

theorem withTree_self (g : Stage) : g.withTree g.transfer.tree = g := by
  cases g <;> rfl

@[simp]
theorem withTree_transfer_tree (t : Tree) (g : Stage) : (g.withTree t).transfer.tree = t := by
  cases g <;> rfl

@[simp]
theorem withTree_staged? (t : Tree) (g : Stage) : (g.withTree t).staged? = g.staged? := by
  cases g <;> rfl

@[simp]
theorem withTree_isCompleted (t : Tree) (g : Stage) :
    (g.withTree t).isCompleted = g.isCompleted := by
  cases g with
  | ended s e => cases e <;> rfl
  | _ => rfl

@[simp]
theorem withTree_left (t : Tree) (g : Stage) : (g.withTree t).left response = g.left response := by
  cases g <;> rfl

theorem Fits.withTree {t : Tree} (h : g.Fits j response t) :
    (g.withTree t).Fits j response (g.withTree t).transfer.tree := by
  rw [withTree_transfer_tree]
  cases g with
  | waiting r rest => exact ⟨h.expected, h.taken⟩
  | receiving r rest => exact ⟨h.expected, h.taken⟩
  | leaving r e => exact h
  | ended s e => exact h
  | called s => trivial
  | answered up s => exact h

theorem Fits.congr {u' : Tree} (h : g.Fits j response u)
    (hu : ∀ st, g.staged? = some st → u'.get? st.key = u.get? st.key) : g.Fits j response u' := by
  cases g with
  | waiting r rest =>
    refine ⟨h.expected, ?_⟩
    rw [hu r.staged rfl]
    exact h.taken
  | receiving r rest =>
    refine ⟨h.expected, ?_⟩
    rw [hu r.staged rfl]
    exact h.taken
  | leaving r e =>
    refine ⟨?_, h.2⟩
    rw [hu r.staged rfl]
    exact h.1
  | ended s e => exact h
  | called s => trivial
  | answered up s => exact h

/-- A staged file is there as long as its download holds it. -/
theorem Fits.file {st : Staged} (h : g.Fits j response u) (hst : g.staged? = some st) :
    ∃ content, u.get? st.key = some (.file Staged.mode content) := by
  cases g with
  | waiting r rest =>
    obtain rfl := Option.some.inj hst
    exact Reception.Stands.file h
  | receiving r rest =>
    obtain rfl := Option.some.inj hst
    exact Reception.Stands.file h
  | leaving r e =>
    obtain rfl := Option.some.inj hst
    exact h.1
  | _ => cases hst

theorem fits_ended (h : ∀ n, e ≠ .completed n) (s : Transfer) (u : Tree) :
    (ended s e).Fits j response u :=
  fun n hn => absurd hn (h n)

end Stage

namespace Reception.Stands

open ServerLauncher.Tree

variable {r' : Reception} {u : Tree}

theorem start {t : Tree} {up : String} {st : Staged}
    (hmade : Staged.create s.tree j.workplace up = .ok (t, st)) :
    Stands
      { transfer := { s with tree := t }, staged := st, expected := response.length,
        tracker := .start response.length, closing := response.closing }
      response response.steps t := by
  refine ⟨rfl, [], rfl, ⟨by simp, by simp⟩, rfl, ?_⟩
  obtain ⟨d, last, -, -, rfl, rfl⟩ := Staged.create_made hmade
  have hnone := (Staged.unused_freshName s.tree).get?_eq_none d
  simp [get?_add, hnone, Response.content]

theorem follow (h : r.Stands response (step :: rest) r.transfer.tree)
    (hstep : ∀ c, step ≠ .change c) (hflows : Response.Flows [step])
    (hr : r.Continues r' (r.staged.absorb j.workplace.key r.transfer.tree step)
      (r.received + (Response.content [step]).length)) :
    r'.Stands response rest r'.transfer.tree := by
  obtain ⟨pre, hsteps, hpre, hrec, hget⟩ := h.taken
  refine ⟨hr.expected.trans h.expected, pre ++ [step], by rw [hsteps, List.append_cons],
    Response.flows_append.2 ⟨hpre, hflows⟩, ?_, ?_⟩
  · rw [hr.received, hrec, Response.content_append, List.length_append]
  · rw [hr.staged, hr.tree, Response.content_append]
    exact Staged.get?_absorb _ hget hstep

theorem setWatch (h : r.Stands response rest u) (w : Watch) :
    (r.setWatch w).Stands response rest u :=
  ⟨h.expected, h.taken⟩

theorem whole (h : r.Stands response [] u) (hgood : r.fault? j = none) :
    response.IsWhole ∧ r.received = (Response.content response.steps).length ∧
      u.get? r.staged.key = some (.file Staged.mode (Response.content response.steps)) := by
  obtain ⟨pre, hsteps, hpre, hrec, hget⟩ := h.taken
  rw [List.append_nil] at hsteps
  subst hsteps
  obtain ⟨hlen, -⟩ := fault?_eq_none_iff.1 hgood
  rw [h.expected, hrec] at hlen
  exact ⟨⟨hpre, filter_eq_none_iff.1 hlen⟩, hrec, hget⟩

end Reception.Stands

namespace Stage

variable {g : Stage}

theorem effect_follow {r' : Reception} {g' : Stage} {received : Nat}
    (hstep : ∀ c, step ≠ .change c)
    (hr : r.Continues r' (r.staged.absorb j.workplace.key r.transfer.tree step) received)
    (htree : g'.transfer.tree = r'.transfer.tree) (hstaged : g'.staged? = some r'.staged)
    (hcompleted : g'.isCompleted = false) :
    (receiving r (step :: rest)).Effect j response g' := by
  rw [hr.staged] at hstaged
  rw [hr.tree] at htree
  cases step with
  | chunk bytes => exact .written rfl htree hstaged hcompleted
  | unwritten kept e => exact .written rfl htree hstaged hcompleted
  | change c => exact absurd rfl (hstep c)
  | _ => exact .still htree hstaged hcompleted

/-- One step, while nobody changes the tree from outside. -/
theorem effect_next (hquiet : Response.changes response.steps = [])
    (h : g.Fits j response g.transfer.tree) :
    g.Effect j response (g.next j response) ∧
      (g.next j response).Fits j response (g.next j response).transfer.tree := by
  cases g with
  | called s =>
    rw [next]
    obtain ⟨s', htree, ⟨e, heq, hne⟩ | ⟨up, hup, heq⟩⟩ := request_cases j response s
    · rw [heq]
      exact ⟨.still htree rfl (isCompleted_ended hne s'), fits_ended hne s' _⟩
    · rw [heq]
      exact ⟨.still htree rfl rfl, hup⟩
  | answered up s =>
    rw [next]
    rcases stage_cases j response up s with ⟨e, heq⟩ | ⟨t, st, hmade, heq⟩
    · rw [heq]
      exact ⟨.still rfl rfl rfl, fits_ended (by simp) s _⟩
    · rw [heq]
      exact ⟨.made rfl hmade rfl rfl, .start hmade⟩
  | waiting r rest =>
    rw [next]
    rcases r.look_cases j rest with heq | ⟨w, heq⟩
    · rw [heq]
      exact ⟨.still rfl rfl rfl, h.file rfl, by simp⟩
    · rw [heq]
      exact ⟨.still rfl rfl rfl, h.setWatch w⟩
  | receiving r rest =>
    cases rest with
    | nil =>
      rw [next]
      rcases r.close_cases j with ⟨r', e, hr, heq, hne⟩ | ⟨t, hgood, hcommit, heq⟩
      · rw [heq]
        refine ⟨.still hr.tree (congrArg some hr.staged) rfl, ?_, hne⟩
        obtain ⟨content, hget⟩ := h.file rfl
        exact ⟨content, by rw [hr.staged, transfer, hr.tree]; exact hget⟩
      · rw [heq]
        obtain ⟨hwhole, hrec, hget⟩ := h.whole hgood
        refine ⟨.moved rfl hget hcommit rfl rfl, fun n hn => ⟨hwhole, ?_⟩⟩
        rw [← Ending.completed.inj hn, hrec]
    | cons step rest =>
      have hstep : ∀ c, step ≠ .change c := by
        rintro c rfl
        obtain ⟨pre, hsteps, -⟩ := h.taken
        rw [hsteps, Response.changes_append] at hquiet
        exact absurd (List.append_eq_nil_iff.1 hquiet).2 (by simp [Response.changes])
      rw [next]
      obtain ⟨r', received, hr, ⟨hflows, rfl, heq | heq⟩ | ⟨e, heq, hne⟩⟩ :=
        r.follow_cases j rest hstep
      · rw [heq]
        exact ⟨effect_follow hstep hr rfl rfl rfl, h.follow hstep hflows hr⟩
      · rw [heq]
        exact ⟨effect_follow hstep hr rfl rfl rfl, h.follow hstep hflows hr⟩
      · rw [heq]
        obtain ⟨content, hget⟩ := h.file rfl
        have hkept := Staged.get?_absorb j.workplace.key hget hstep
        refine ⟨effect_follow hstep hr rfl rfl rfl, ⟨content ++ Response.content [step], ?_⟩, hne⟩
        rw [transfer, hr.tree, hr.staged]
        exact hkept
  | leaving r e => exact ⟨.removed rfl rfl rfl (isCompleted_ended h.2 _), fits_ended h.2 _ _⟩
  | ended s e => exact ⟨.still rfl rfl rfl, h⟩

end Stage

end Download

end ServerLauncher
