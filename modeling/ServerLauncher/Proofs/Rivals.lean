import ServerLauncher.Proofs.Shared
import ServerLauncher.Proofs.Stages

/-!
Many downloads to one destination at the same time, their steps in any order. The destination holds
what it held at first, or the whole body of the download that was the last to move its file. Beside
that the tree differs from the first one in the staged files of downloads that are still going on.
Only a download that has replaced a link on the way to its own destination can strand the staged
files of others.
-/

namespace ServerLauncher

open ServerLauncher.Tree ServerLauncher.Download

/-- What a download brings along beside its destination. -/
structure Attempt where
  url : String
  stall : Duration
  response : Response
  cancellation : Cancellation := {}
  paced : Bool := false
  deriving DecidableEq, Repr

/-- Downloads to one destination. -/
structure Rivals (ι : Type) where
  goal : Goal
  attempt : ι → Attempt

/-- The tree, how far each download has come, and the downloads that have moved their file, the last
one first. -/
structure Crowd (ι : Type) where
  tree : Tree
  stage : ι → Stage
  moved : List ι

namespace Rivals

variable {ι : Type}

def job (R : Rivals ι) (i : ι) : Job :=
  ⟨R.goal.workplace, (R.attempt i).url, R.goal.destination, (R.attempt i).stall⟩

def body (R : Rivals ι) (i : ι) : Bytes :=
  Response.content (R.attempt i).response.steps

def start (R : Rivals ι) (t : Tree) : Crowd ι where
  tree := t
  stage i := .called (.start t (R.attempt i).cancellation (R.attempt i).paced)
  moved := []

/-- The stage of a download after its next step, which it takes in the tree of all. -/
def advance (R : Rivals ι) (c : Crowd ι) (i : ι) : Stage :=
  ((c.stage i).withTree c.tree).next (R.job i) (R.attempt i).response

/-- One download takes its next step. -/
def step [DecidableEq ι] (R : Rivals ι) (c : Crowd ι) (i : ι) : Crowd ι where
  tree := (R.advance c i).transfer.tree
  stage k := if k = i then R.advance c i else c.stage k
  moved :=
    if (R.advance c i).isCompleted && !(c.stage i).isCompleted then i :: c.moved else c.moved

/-- The downloads take their steps in the order of a schedule. -/
def run [DecidableEq ι] (R : Rivals ι) (t : Tree) (schedule : List ι) : Crowd ι :=
  schedule.foldl R.step (R.start t)

/-- A body has been installed in the middle of the way to its own directory. -/
def IsCut (R : Rivals ι) (t : Tree) (c : Crowd ι) : Prop :=
  c.moved ≠ [] ∧ R.goal.IsTangled t

/-- A staged file that a download still holds, or one that may be stranded. -/
def IsHeld (R : Rivals ι) (t : Tree) (c : Crowd ι) (k : Key) : Prop :=
  (∃ i st, (c.stage i).staged? = some st ∧ st.key = k) ∨ R.IsCut t c

/-- What holds of the downloads at any time. -/
structure Sound (R : Rivals ι) (t : Tree) (c : Crowd ι) : Prop where
  shared : R.goal.Shared t (c.moved.head?.map R.body) (R.IsHeld t c) c.tree
  staged : ∀ i st, (c.stage i).staged? = some st → ∃ up d, R.goal.Stages t up d st
  apart : ∀ i k st st', (c.stage i).staged? = some st → (c.stage k).staged? = some st' →
    st.key = st'.key → i = k
  fits : ∀ i, (c.stage i).Fits (R.job i) (R.attempt i).response c.tree
  moved : ∀ i, i ∈ c.moved ↔ (c.stage i).isCompleted = true

variable {R : Rivals ι} {t : Tree} {c : Crowd ι} {i k : ι} {st : Staged}
  {up : String} {d : Key}

theorem isCut_iff :
    R.IsCut t c ↔ (c.moved.head?.map R.body).isSome ∧ R.goal.IsTangled t := by
  unfold IsCut
  cases c.moved <;> simp

theorem sound_start (R : Rivals ι) (t : Tree) : R.Sound t (R.start t) where
  shared := .start ..
  staged _ _ h := by cases h
  apart _ _ _ _ h := by cases h
  fits _ := trivial
  moved i := by simp [start, Stage.isCompleted]

/-- As long as the way is not cut off, it leads to the directory of the destination. -/
theorem Sound.directoryAt_of_open (h : R.Sound t c) (hopen : ¬R.IsCut t c)
    (hup : FilePath.parent? R.goal.destination = some up)
    (hd : t.directoryAt R.goal.workplace.key up = some d) :
    c.tree.directoryAt R.goal.workplace.key up = some d :=
  h.shared.directoryAt_of_open hup hd (mt isCut_iff.2 hopen)

theorem Sound.directoryAt_of_cut (h : R.Sound t c) (hcut : R.IsCut t c)
    (hup : FilePath.parent? R.goal.destination = some up) :
    c.tree.directoryAt R.goal.workplace.key up = none :=
  h.shared.directoryAt_of_cut hup (isCut_iff.1 hcut)

theorem Sound.answered (h : R.Sound t c) {s : Transfer}
    (hg : (c.stage i).withTree c.tree = .answered up s) :
    s.tree = c.tree ∧ FilePath.parent? R.goal.destination = some up := by
  have htree := Stage.withTree_transfer_tree c.tree (c.stage i)
  have hfits := (h.fits i).withTree
  rw [hg] at htree hfits
  exact ⟨htree, hfits⟩

theorem advance_of_completed (h : (c.stage i).isCompleted = true) :
    R.advance c i = (c.stage i).withTree c.tree := by
  unfold advance
  generalize c.stage i = g at h
  cases g with
  | ended s e => rfl
  | _ => cases h

variable [DecidableEq ι]

theorem step_stage_self (R : Rivals ι) (c : Crowd ι) (i : ι) :
    (R.step c i).stage i = R.advance c i :=
  if_pos rfl

theorem step_stage_of_ne (R : Rivals ι) (c : Crowd ι) (h : k ≠ i) :
    (R.step c i).stage k = c.stage k :=
  if_neg h

theorem step_moved_of_eq (h : (R.advance c i).isCompleted = (c.stage i).isCompleted) :
    (R.step c i).moved = c.moved := by
  simp [step, h]

theorem IsHeld.step {q : Key} (h : R.IsHeld t c q)
    (hmoved : c.moved ≠ [] → (R.step c i).moved ≠ [])
    (hown : ∀ st, (c.stage i).staged? = some st → st.key = q →
      (R.advance c i).staged? = some st) :
    R.IsHeld t (R.step c i) q := by
  rcases h with ⟨k, st, hst, hkey⟩ | ⟨hne, htangled⟩
  · refine Or.inl ⟨k, st, ?_, hkey⟩
    by_cases hki : k = i
    · subst hki
      rw [step_stage_self]
      exact hown st hst hkey
    · rw [step_stage_of_ne R c hki]
      exact hst
  · exact Or.inr ⟨hmoved hne, htangled⟩

namespace Sound

/-- The downloads after a step, from what the step has done to the tree and to its own download. -/
theorem of_advance (h : R.Sound t c)
    (hshared : R.goal.Shared t ((R.step c i).moved.head?.map R.body) (R.IsHeld t (R.step c i))
      (R.advance c i).transfer.tree)
    (hsame : ∀ k st, k ≠ i → (c.stage k).staged? = some st →
      (R.advance c i).transfer.tree.get? st.key = c.tree.get? st.key)
    (hstaged : ∀ st, (R.advance c i).staged? = some st →
      (∃ up d, R.goal.Stages t up d st) ∧
        ∀ k st', k ≠ i → (c.stage k).staged? = some st' → st.key ≠ st'.key)
    (hfits : (R.advance c i).Fits (R.job i) (R.attempt i).response (R.advance c i).transfer.tree) :
    R.Sound t (R.step c i) where
  shared := hshared
  staged k st hk := by
    by_cases hki : k = i
    · subst hki
      rw [step_stage_self] at hk
      exact (hstaged st hk).1
    · rw [step_stage_of_ne R c hki] at hk
      exact h.staged k st hk
  apart k k' st st' hk hk' hkey := by
    by_cases hki : k = i <;> by_cases hki' : k' = i
    · exact hki.trans hki'.symm
    · rw [hki, step_stage_self] at hk
      rw [step_stage_of_ne R c hki'] at hk'
      exact absurd hkey ((hstaged st hk).2 k' st' hki' hk')
    · rw [step_stage_of_ne R c hki] at hk
      rw [hki', step_stage_self] at hk'
      exact absurd hkey.symm ((hstaged st' hk').2 k st hki hk)
    · rw [step_stage_of_ne R c hki] at hk
      rw [step_stage_of_ne R c hki'] at hk'
      exact h.apart k k' st st' hk hk' hkey
  fits k := by
    by_cases hki : k = i
    · subst hki
      rw [step_stage_self]
      exact hfits
    · rw [step_stage_of_ne R c hki]
      exact (h.fits k).congr fun st hst => hsame k st hki hst
  moved k := by
    have hmoved := h.moved k
    by_cases hki : k = i
    · subst hki
      rw [step_stage_self]
      simp only [step]
      cases hbefore : (c.stage k).isCompleted with
      | true =>
        rw [advance_of_completed hbefore, Stage.withTree_isCompleted, hbefore]
        simpa [hbefore] using hmoved
      | false =>
        rw [hbefore] at hmoved
        cases hafter : (R.advance c k).isCompleted <;> simp [hmoved]
    · rw [step_stage_of_ne R c hki, ← hmoved]
      simp only [step]
      split
      · simp [hki]
      · rfl

theorem of_still (h : R.Sound t c) (htree : (R.advance c i).transfer.tree = c.tree)
    (hst : (R.advance c i).staged? = (c.stage i).staged?)
    (hcompleted : (R.advance c i).isCompleted = (c.stage i).isCompleted)
    (hfits : (R.advance c i).Fits (R.job i) (R.attempt i).response (R.advance c i).transfer.tree) :
    R.Sound t (R.step c i) := by
  have hmoved := step_moved_of_eq hcompleted
  refine h.of_advance ?_ (fun k st _ _ => by rw [htree]) (fun st hst' => ?_) hfits
  · rw [hmoved, htree]
    exact h.shared.mono fun q hq => hq.step (by rw [hmoved]; exact id) fun st hst' _ => by
      rw [hst, hst']
  · rw [hst] at hst'
    refine ⟨h.staged i st hst', fun k st' hk hst'' heq => hk ?_⟩
    exact h.apart k i st' st hst'' hst' heq.symm

theorem of_own (h : R.Sound t c) {up : String} {d : Key} (hst : R.goal.Stages t up d st)
    (hbefore : ∀ st', (c.stage i).staged? = some st' → st' = st)
    (hafter : ∀ st', (R.advance c i).staged? = some st' → st' = st)
    (hfree : ∀ k st', k ≠ i → (c.stage k).staged? = some st' → st.key ≠ st'.key)
    (hcompleted : (R.advance c i).isCompleted = (c.stage i).isCompleted)
    (hsealed : (R.advance c i).transfer.tree.sealed = c.tree.sealed)
    (hother : ∀ q, q ≠ st.key → (R.advance c i).transfer.tree.get? q = c.tree.get? q)
    (hkey : (R.advance c i).transfer.tree.get? st.key = none ∨
      R.IsHeld t (R.step c i) st.key ∧
        ∃ mode content, (R.advance c i).transfer.tree.get? st.key = some (.file mode content))
    (hfits : (R.advance c i).Fits (R.job i) (R.attempt i).response (R.advance c i).transfer.tree) :
    R.Sound t (R.step c i) := by
  have hmoved := step_moved_of_eq hcompleted
  refine h.of_advance ?_ (fun k st' hk hst' => hother _ (hfree k st' hk hst').symm)
    (fun st' hst' => ?_) hfits
  · rw [hmoved]
    refine h.shared.set hst hsealed hother (fun q hq hheld => ?_) hkey
    apply hheld.step (by rw [hmoved]; exact id)
    intro st' hst' hq'
    rw [hbefore st' hst'] at hq'
    exact absurd hq'.symm hq
  · rw [hafter st' hst']
    exact ⟨⟨up, d, hst⟩, hfree⟩

theorem of_made (h : R.Sound t c) (hown : ∀ m, Staged.numbered m ∉ steps R.goal.destination)
    {up : String} {s : Transfer} (hstage : (c.stage i).withTree c.tree = .answered up s)
    (hmade : Staged.create s.tree R.goal.workplace up = .ok ((R.advance c i).transfer.tree, st))
    (hst : (R.advance c i).staged? = some st) (hcompleted : (R.advance c i).isCompleted = false)
    (hfits : (R.advance c i).Fits (R.job i) (R.attempt i).response (R.advance c i).transfer.tree) :
    R.Sound t (R.step c i) := by
  obtain ⟨htree, hup⟩ := h.answered hstage
  have hnone : (c.stage i).staged? = none := by
    rw [← Stage.withTree_staged? c.tree, hstage]
    rfl
  have hbefore : (c.stage i).isCompleted = false := by
    rw [← Stage.withTree_isCompleted c.tree, hstage]
    rfl
  rw [htree] at hmade
  obtain ⟨⟨d, hstages⟩, hfree, hadd⟩ := h.shared.create hup hown hmade
  have hfirst : ∀ st', (c.stage i).staged? = some st' → st' = st := by
    intro st' hst'
    rw [hnone] at hst'
    cases hst'
  have honly : ∀ st', (R.advance c i).staged? = some st' → st' = st := by
    intro st' hst'
    exact Option.some.inj (hst'.symm.trans hst)
  have hother : ∀ k st', k ≠ i → (c.stage k).staged? = some st' → st.key ≠ st'.key := by
    intro k st' _ hst' heq
    obtain ⟨content, hfile⟩ := (h.fits k).file hst'
    rw [← heq, hfree] at hfile
    cases hfile
  have hsame : (R.advance c i).isCompleted = (c.stage i).isCompleted := by
    rw [hcompleted, hbefore]
  have hrest : ∀ q, q ≠ st.key → (R.advance c i).transfer.tree.get? q = c.tree.get? q := by
    intro q hq
    rw [hadd, get?_add, if_neg hq, Option.or_none]
  refine h.of_own hstages hfirst honly hother hsame (by rw [hadd]; rfl) hrest
    (Or.inr ⟨Or.inl ⟨i, st, ?_, rfl⟩, Staged.mode, [], ?_⟩) hfits
  · rw [step_stage_self, hst]
  · rw [hadd, get?_add, hfree, if_pos rfl]
    rfl

theorem of_written (h : R.Sound t c) {bytes : Bytes} (hbefore : (c.stage i).staged? = some st)
    (htree : (R.advance c i).transfer.tree = st.write c.tree bytes)
    (hst : (R.advance c i).staged? = some st) (hcompleted : (R.advance c i).isCompleted = false)
    (hfits : (R.advance c i).Fits (R.job i) (R.attempt i).response (R.advance c i).transfer.tree) :
    R.Sound t (R.step c i) := by
  obtain ⟨up, d, hstages⟩ := h.staged i st hbefore
  obtain ⟨content, hfile⟩ := hfits.file hst
  have hsame : (R.advance c i).isCompleted = (c.stage i).isCompleted := by
    rw [hcompleted, Stage.isCompleted_of_staged hbefore]
  have hfirst : ∀ st', (c.stage i).staged? = some st' → st' = st := by
    intro st' hst'
    exact Option.some.inj (hst'.symm.trans hbefore)
  have honly : ∀ st', (R.advance c i).staged? = some st' → st' = st := by
    intro st' hst'
    exact Option.some.inj (hst'.symm.trans hst)
  have hother : ∀ k st', k ≠ i → (c.stage k).staged? = some st' → st.key ≠ st'.key := by
    intro k st' hk hst' heq
    exact hk (h.apart k i st' st hst' hbefore heq.symm)
  have hrest : ∀ q, q ≠ st.key → (R.advance c i).transfer.tree.get? q = c.tree.get? q := by
    intro q hq
    rw [htree, Staged.write, append, get?_modify, if_neg hq]
  refine h.of_own hstages hfirst honly hother hsame (by rw [htree]; rfl) hrest
    (Or.inr ⟨Or.inl ⟨i, st, ?_, rfl⟩, Staged.mode, content, hfile⟩) hfits
  rw [step_stage_self, hst]

/-- The staged file is removed, or it is stranded since the way to it is cut off. -/
theorem of_removed (h : R.Sound t c) (hbefore : (c.stage i).staged? = some st)
    (htree : (R.advance c i).transfer.tree = st.discard c.tree R.goal.workplace)
    (hst : (R.advance c i).staged? = none) (hcompleted : (R.advance c i).isCompleted = false)
    (hfits : (R.advance c i).Fits (R.job i) (R.attempt i).response (R.advance c i).transfer.tree) :
    R.Sound t (R.step c i) := by
  obtain ⟨up, d, hstages⟩ := h.staged i st hbefore
  obtain ⟨content, hfile⟩ := (h.fits i).file hbefore
  have hsame : (R.advance c i).isCompleted = (c.stage i).isCompleted := by
    rw [hcompleted, Stage.isCompleted_of_staged hbefore]
  have hown : ∀ st', (c.stage i).staged? = some st' → st' = st := fun st' hst' =>
    Option.some.inj (hst'.symm.trans hbefore)
  have hgone : ∀ st', (R.advance c i).staged? = some st' → st' = st := by
    intro st' hst'
    rw [hst] at hst'
    cases hst'
  have hfree : ∀ k st', k ≠ i → (c.stage k).staged? = some st' → st.key ≠ st'.key :=
    fun k st' hk hst' heq => hk (h.apart k i st' st hst' hbefore heq.symm)
  by_cases hcut : R.IsCut t c
  · have hleft := hstages.discard_of_cut (h.directoryAt_of_cut hcut hstages.parent)
    rw [hleft] at htree
    have hne : (R.step c i).moved ≠ [] := by
      rw [step_moved_of_eq hsame]
      exact hcut.1
    refine h.of_own hstages hown hgone hfree hsame (by rw [htree]) (fun q _ => by rw [htree])
      (Or.inr ⟨Or.inr ⟨hne, hcut.2⟩, Staged.mode, content, ?_⟩) hfits
    rw [htree, hfile]
  · have hway := h.directoryAt_of_open hcut hstages.parent hstages.directory
    rw [hstages.discard_of_open hway hfile] at htree
    refine h.of_own hstages hown hgone hfree hsame (by rw [htree]; rfl) (fun q hq => ?_)
      (Or.inl ?_) hfits
    · rw [htree, get?_erase_of_ne hq]
    · rw [htree, get?_erase, if_pos rfl]

theorem of_moved (h : R.Sound t c) (hbefore : (c.stage i).staged? = some st)
    (hwhole : c.tree.get? st.key = some (.file Staged.mode (R.body i)))
    (hcommit : st.commit c.tree R.goal.workplace R.goal.destination =
      .ok (R.advance c i).transfer.tree)
    (hst : (R.advance c i).staged? = none) (hcompleted : (R.advance c i).isCompleted = true)
    (hfits : (R.advance c i).Fits (R.job i) (R.attempt i).response (R.advance c i).transfer.tree) :
    R.Sound t (R.step c i) := by
  obtain ⟨up, d, hstages⟩ := h.staged i st hbefore
  obtain ⟨q, hplace, hdir, hsealed, hget⟩ := hstages.commit_eq_ok h.shared hwhole hcommit
  have hmoved : (R.step c i).moved = i :: c.moved := by
    simp [step, hcompleted, Stage.isCompleted_of_staged hbefore]
  refine h.of_advance ?_ (fun k st' hk hst' => ?_) (fun st' hst' => ?_) hfits
  · rw [hmoved]
    apply h.shared.move hstages hplace hdir hsealed hget
    intro q' hq' hheld
    apply hheld.step (by simp [hmoved])
    intro st' hst' hkey
    obtain rfl := Option.some.inj (hst'.symm.trans hbefore)
    exact absurd hkey.symm hq'
  · obtain ⟨up', d', hstages'⟩ := h.staged k st' hst'
    have hne : st'.key ≠ q := fun heq => hstages'.not_isPlace (heq ▸ hplace)
    have hne' : st'.key ≠ st.key := fun heq => hk (h.apart k i st' st hst' hbefore heq)
    rw [hget, if_neg hne, if_neg hne']
  · rw [hst] at hst'
    cases hst'

theorem step (h : R.Sound t c) (hown : ∀ m, Staged.numbered m ∉ steps R.goal.destination)
    (hquiet : Response.changes (R.attempt i).response.steps = []) : R.Sound t (R.step c i) := by
  obtain ⟨heffect, hfits⟩ := Stage.effect_next (j := R.job i) hquiet (h.fits i).withTree
  have htree : ((c.stage i).withTree c.tree).transfer.tree = c.tree :=
    Stage.withTree_transfer_tree ..
  change Stage.Effect _ _ _ (R.advance c i) at heffect
  cases heffect with
  | still heq hst hcompleted =>
    rw [Stage.withTree_staged?] at hst
    rw [Stage.withTree_isCompleted] at hcompleted
    exact h.of_still (heq.trans htree) hst hcompleted hfits
  | made hstage hmade hst hcompleted => exact h.of_made hown hstage hmade hst hcompleted hfits
  | written hbefore heq hst hcompleted =>
    rw [Stage.withTree_staged?] at hbefore
    rw [htree] at heq
    exact h.of_written hbefore heq hst hcompleted hfits
  | moved hbefore hwhole hcommit hst hcompleted =>
    rw [Stage.withTree_staged?] at hbefore
    rw [htree] at hwhole hcommit
    exact h.of_moved hbefore hwhole hcommit hst hcompleted hfits
  | removed hbefore heq hst hcompleted =>
    rw [Stage.withTree_staged?] at hbefore
    rw [htree] at heq
    exact h.of_removed hbefore heq hst hcompleted hfits

end Sound

/-- The downloads are sound at any time. -/
theorem sound_run (R : Rivals ι) (hown : ∀ m, Staged.numbered m ∉ steps R.goal.destination)
    (hquiet : ∀ i, Response.changes (R.attempt i).response.steps = []) (t : Tree)
    (schedule : List ι) : R.Sound t (R.run t schedule) := by
  have hrun : ∀ c, R.Sound t c → R.Sound t (schedule.foldl R.step c) := by
    induction schedule with
    | nil => exact fun c h => h
    | cons i schedule ih => exact fun c h => ih _ (h.step hown (hquiet i))
  exact hrun _ (sound_start R t)

end Rivals

end ServerLauncher
