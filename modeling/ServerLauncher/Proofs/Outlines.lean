import ServerLauncher.Proofs.Stages

/-!
What a download looks like apart from the file tree: its stage without the tree, the staged file and
the words of the file system. The tree has a say in two steps only. It decides whether a file can be
staged, and whether it can be moved.
-/

namespace ServerLauncher

/-- The transfer without its tree. -/
def Transfer.outline (s : Transfer) : Transfer :=
  { s with tree := ⟨[], []⟩ }

@[simp]
theorem Transfer.outline_watch (s : Transfer) : s.outline.watch = s.watch :=
  rfl

theorem Transfer.outline_getD {s s' : Transfer} (h : s.outline = s'.outline)
    (event : Option Progress.Event) :
    ((event.map s.report).getD s).outline = ((event.map s'.report).getD s').outline := by
  cases event with
  | none => exact h
  | some event => exact congrArg (Transfer.report · event) h

/-- What is done to a staged file of one's own, named by its path. -/
def Staged.actions : List String :=
  ["write to", "flush", "sync"]

/-- The ending without the name of the staged file, and without the cause that the file system gave
for refusing one or for not moving it. -/
def Ending.outline : Ending → Ending
  | .failed (.file action path cause) =>
    if Staged.actions.contains action then .failed (.file action "" cause)
    else .failed (.file action path .noParent)
  | e => e

namespace Download

def Reception.outline (r : Reception) : Reception :=
  { r with transfer := r.transfer.outline, staged := ⟨"", []⟩ }

def Stage.outline : Stage → Stage
  | .called s => .called s.outline
  | .answered up s => .answered up s.outline
  | .waiting r rest => .waiting r.outline rest
  | .receiving r rest => .receiving r.outline rest
  | .leaving r e => .leaving r.outline e.outline
  | .ended s e => .ended s.outline e.outline

variable {j : Job} {response : Response} {s s' : Transfer} {up : String} {r r' : Reception}
  {step : Step} {rest : List Step} {g g' : Stage} {e : Ending}

theorem fetch_outline (j : Job) (response : Response) (s : Transfer) :
    fetch j response s.outline =
      ((fetch j response s).1.outline, (fetch j response s).2) := by
  unfold fetch Transfer.outline
  dsimp only
  generalize (s.watch.renew j.stallMillis).pass response.delay = passed
  obtain ⟨w, interruption⟩ := passed
  cases interruption with
  | some i => rfl
  | none =>
    dsimp only
    cases response.answer <;> rfl

theorem request_outline (j : Job) (response : Response) (s : Transfer) :
    (request j response s.outline).outline = (request j response s).outline := by
  unfold request
  rw [fetch_outline]
  cases FilePath.parent? j.destination with
  | none => rfl
  | some up =>
    dsimp only
    rw [Transfer.outline_watch]
    by_cases hf : s.watch.fired = true
    · rw [if_pos hf, if_pos hf]
      rfl
    · rw [if_neg hf, if_neg hf]
      generalize fetch j response s = fetched
      obtain ⟨s', ending⟩ := fetched
      cases ending <;> rfl

namespace Reception

theorem look_outline (r : Reception) (j : Job) (rest : List Step) :
    (r.outline.look j rest).outline = (r.look j rest).outline := by
  have hwatch : r.outline.transfer.watch = r.transfer.watch := rfl
  unfold look
  rw [hwatch]
  by_cases hf : r.transfer.watch.fired = true
  · rw [if_pos hf, if_pos hf]
    rfl
  · rw [if_neg hf, if_neg hf]
    rfl

theorem keep_outline (r : Reception) (bytes : Bytes) :
    (r.outline.keep bytes).outline = (r.keep bytes).outline := by
  have hsame : ({ r.outline.transfer with tree := r.outline.staged.write ⟨[], []⟩ bytes } :
      Transfer).outline =
        ({ r.transfer with tree := r.staged.write r.transfer.tree bytes } : Transfer).outline := rfl
  exact congrArg (fun s => { (r.keep bytes).outline with transfer := s })
    (Transfer.outline_getD hsame _)

theorem follow_outline (r : Reception) (j : Job) (rest : List Step) (step : Step) :
    (r.outline.follow j rest step).outline = (r.follow j rest step).outline := by
  cases step with
  | chunk bytes => exact congrArg (Stage.waiting · rest) (r.keep_outline bytes)
  | unwritten kept e => rfl
  | fail error => rfl
  | wait millis =>
    have hwatch : r.outline.transfer.watch = r.transfer.watch := rfl
    rw [follow, follow, hwatch]
    generalize r.transfer.watch.pass millis = passed
    obtain ⟨w, interruption⟩ := passed
    cases interruption <;> rfl
  | hang => rfl
  | cancel => rfl
  | change c => rfl

theorem told_outline (r : Reception) : r.outline.told.outline = r.told.outline := by
  have hsame : r.outline.transfer.outline = r.transfer.outline := rfl
  exact congrArg (fun s => { r.told.outline with transfer := s })
    (Transfer.outline_getD hsame _)

theorem fault?_outline (j : Job) (h : r.outline = r'.outline) :
    (r.fault? j).map (fun e => (Ending.failed e).outline) =
      (r'.fault? j).map fun e => (Ending.failed e).outline := by
  have hexp : r.expected = r'.expected := congrArg (·.expected) h
  have hrec : r.received = r'.received := congrArg (·.received) h
  have hclosing : r.closing = r'.closing := congrArg (·.closing) h
  unfold fault?
  rw [hexp, hrec, hclosing]
  cases r'.expected.filter (· != r'.received) with
  | some n => rfl
  | none =>
    cases hfault : r'.closing.fault? with
    | none => rfl
    | some fault =>
      obtain ⟨action, e⟩ := fault
      rcases Closing.action_of_fault? hfault with rfl | rfl
      · rfl
      · rfl

/-- Only the move at the end depends on the tree. -/
theorem close_outline (h : r.outline = r'.outline)
    (hmove : (∃ t, r.staged.commit r.transfer.tree j.workplace j.destination = .ok t) ↔
      ∃ t, r'.staged.commit r'.transfer.tree j.workplace j.destination = .ok t) :
    (r.close j).outline = (r'.close j).outline := by
  have hrec : r.received = r'.received := congrArg (·.received) h
  have htold : r.told.outline = r'.told.outline := by
    rw [← told_outline r, h, told_outline]
  have hfault := fault?_outline j h
  unfold close
  generalize r.fault? j = fault at hfault
  generalize r'.fault? j = fault' at hfault
  cases fault with
  | some e =>
    cases fault' with
    | some e' =>
      have he : (Ending.failed e).outline = (Ending.failed e').outline := Option.some.inj hfault
      dsimp only [Stage.outline]
      rw [h, he]
    | none => cases hfault
  | none =>
    obtain rfl := Option.map_eq_none_iff.1 hfault.symm
    rw [hrec]
    dsimp only
    generalize r.staged.commit r.transfer.tree j.workplace j.destination = moved at hmove
    generalize r'.staged.commit r'.transfer.tree j.workplace j.destination = moved' at hmove
    cases moved with
    | ok t =>
      obtain ⟨t', rfl⟩ := hmove.1 ⟨t, rfl⟩
      exact congrArg (Stage.ended ·.transfer _) htold
    | error e =>
      cases moved' with
      | ok t' => exact absurd (hmove.2 ⟨t', rfl⟩) (by simp)
      | error e' => exact congrArg (Stage.leaving · _) htold

end Reception

theorem stage_outline (h : s.outline = s'.outline)
    (hmade : (∃ m, Staged.create s.tree j.workplace up = .ok m) ↔
      ∃ m, Staged.create s'.tree j.workplace up = .ok m) :
    (stage j response up s).outline = (stage j response up s').outline := by
  unfold stage
  generalize Staged.create s.tree j.workplace up = made at hmade
  generalize Staged.create s'.tree j.workplace up = made' at hmade
  cases made with
  | ok m =>
    obtain ⟨m', rfl⟩ := hmade.1 ⟨m, rfl⟩
    exact congrArg
      (fun s => Stage.waiting
        ⟨s, ⟨"", []⟩, response.length, .start response.length, 0, response.closing⟩
        response.steps) h
  | error e =>
    cases made' with
    | ok m' => exact absurd (hmade.2 ⟨m', rfl⟩) (by simp)
    | error e' => exact congrArg (Stage.ended · _) h

namespace Stage

/-- Two downloads that look alike take a step that looks alike, if the file system treats them
alike. -/
theorem next_outline (h : g.outline = g'.outline)
    (hmade : ∀ up s s', g = answered up s → g' = answered up s' →
      ((∃ m, Staged.create s.tree j.workplace up = .ok m) ↔
        ∃ m, Staged.create s'.tree j.workplace up = .ok m))
    (hmove : ∀ r r', g = receiving r [] → g' = receiving r' [] →
      ((∃ t, r.staged.commit r.transfer.tree j.workplace j.destination = .ok t) ↔
        ∃ t, r'.staged.commit r'.transfer.tree j.workplace j.destination = .ok t)) :
    (g.next j response).outline = (g'.next j response).outline := by
  cases g with
  | called s =>
    cases g' with
    | called s' =>
      have hs : s.outline = s'.outline := Stage.called.inj h
      rw [next, next, ← request_outline, hs, request_outline]
    | _ => cases h
  | answered up s =>
    cases g' with
    | answered up' s' =>
      obtain ⟨rfl, hs⟩ := Stage.answered.inj h
      rw [next, next]
      exact stage_outline hs (hmade up s s' rfl rfl)
    | _ => cases h
  | waiting r rest =>
    cases g' with
    | waiting r' rest' =>
      obtain ⟨hr, rfl⟩ := Stage.waiting.inj h
      rw [next, next, ← Reception.look_outline, hr, Reception.look_outline]
    | _ => cases h
  | receiving r rest =>
    cases g' with
    | receiving r' rest' =>
      obtain ⟨hr, rfl⟩ := Stage.receiving.inj h
      cases rest with
      | nil =>
        rw [next, next]
        exact Reception.close_outline hr (hmove r r' rfl rfl)
      | cons step rest =>
        rw [next, next, ← Reception.follow_outline, hr, Reception.follow_outline]
    | _ => cases h
  | leaving r e =>
    cases g' with
    | leaving r' e' =>
      obtain ⟨hr, he⟩ := Stage.leaving.inj h
      have hs : r.transfer.outline = r'.transfer.outline := congrArg (·.transfer) hr
      change ended r.transfer.outline e.outline = ended r'.transfer.outline e'.outline
      rw [hs, he]
    | _ => cases h
  | ended s e =>
    cases g' with
    | ended s' e' => exact h
    | _ => cases h

@[simp]
theorem outline_withTree (t : Tree) (g : Stage) : (g.withTree t).outline = g.outline := by
  cases g <;> rfl

theorem isCompleted_outline (g : Stage) : g.outline.isCompleted = g.isCompleted := by
  cases g with
  | ended s e =>
    cases e with
    | failed error =>
      cases error with
      | file action path cause =>
        rw [outline, Ending.outline]
        split
        · rfl
        · rfl
      | _ => rfl
    | _ => rfl
  | _ => rfl

end Stage

end Download

end ServerLauncher
