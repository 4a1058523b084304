import Mathlib.Data.List.Induction
import ServerLauncher.Proofs.Outlines
import ServerLauncher.Proofs.Rivals

/-!
What downloads to one destination make of one another's work. Leaving out the steps of some
downloads changes nothing for the others, unless one that is left out has cut off the way.
-/

namespace ServerLauncher

open ServerLauncher.Tree ServerLauncher.Download

namespace Rivals

variable {ι : Type} {R : Rivals ι} {t : Tree} {c c' : Crowd ι} {i k : ι} {st : Staged}
  {up : String} {d : Key} {keep : ι → Bool}

namespace Sound

theorem isPlace_iff (h : R.Sound t c) (hopen : ¬R.IsCut t c)
    (hup : FilePath.parent? R.goal.destination = some up) {q : Key} :
    R.goal.IsPlace c.tree q ↔ R.goal.IsPlace t q := by
  constructor
  · rintro ⟨d, n, hloc, rfl⟩
    obtain ⟨-, hlast, -⟩ := locateParent_eq_ok_iff.1 hloc
    obtain ⟨hfault, hd⟩ := (locateParent_name_iff hup hlast).1 hloc
    exact (Goal.isPlace_iff hup hlast).2
      ⟨hfault, h.shared.patched.directoryAt_of_directoryAt hd⟩
  · rintro ⟨d, n, hloc, rfl⟩
    obtain ⟨-, hlast, -⟩ := locateParent_eq_ok_iff.1 hloc
    obtain ⟨hfault, hd⟩ := (locateParent_name_iff hup hlast).1 hloc
    exact (Goal.isPlace_iff hup hlast).2 ⟨hfault, h.directoryAt_of_open hopen hup hd⟩

theorem isWhole_of_moved (h : R.Sound t c) (hi : i ∈ c.moved) : (R.attempt i).response.IsWhole := by
  have hcompleted := (h.moved i).1 hi
  have hfits := h.fits i
  cases hg : c.stage i with
  | ended s e =>
    rw [hg] at hcompleted hfits
    cases e with
    | completed n => exact (hfits n rfl).1
    | _ => cases hcompleted
  | _ =>
    rw [hg] at hcompleted
    cases hcompleted

/-- The destination holds what it held at first, or the body that was the last to be moved. -/
theorem place_cases (h : R.Sound t c) {q : Key} (hq : R.goal.IsPlace t q) :
    (c.moved = [] ∧ c.tree.get? q = t.get? q) ∨
      ∃ i, c.moved.head? = some i ∧ (R.attempt i).response.IsWhole ∧
        c.tree.get? q = some (.file 0o755 (R.body i)) := by
  have hplace := h.shared.place q hq
  cases hmoved : c.moved with
  | nil =>
    rw [hmoved] at hplace
    exact Or.inl ⟨rfl, hplace⟩
  | cons i others =>
    rw [hmoved] at hplace
    exact Or.inr ⟨i, rfl, h.isWhole_of_moved (by simp [hmoved]), hplace⟩

theorem get?_of_ended (h : R.Sound t c) (hopen : ¬R.IsCut t c)
    (hended : ∀ i, ∃ s e, c.stage i = .ended s e) {q : Key} (hq : ¬R.goal.IsPlace t q) :
    c.tree.get? q = t.get? q := by
  rcases h.shared.other q hq with hsame | ⟨-, ⟨i, st, hst, -⟩ | hcut, -⟩
  · exact hsame
  · obtain ⟨s, e, hg⟩ := hended i
    rw [hg] at hst
    cases hst
  · exact absurd hcut hopen

/-- The directory of a staged file can still be reached when the file is moved. -/
theorem not_isCut_of_commit (h : R.Sound t c) (hst : (c.stage i).staged? = some st)
    (hmove : ∃ u, st.commit c.tree R.goal.workplace R.goal.destination = .ok u) :
    ¬R.IsCut t c := by
  intro hcut
  obtain ⟨up, d, hstages⟩ := h.staged i st hst
  obtain ⟨u, hcommit⟩ := hmove
  obtain ⟨sd, sn, ss, -, -, -, hsource, -⟩ := moveFile_eq_ok hcommit
  have hway := h.directoryAt_of_cut hcut hstages.parent
  rw [(hstages.locateParent_iff.1 hsource).1] at hway
  cases hway

theorem commit_isOk_iff (h : R.Sound t c) (hopen : ¬R.IsCut t c)
    (hst : (c.stage i).staged? = some st) :
    (∃ u, st.commit c.tree R.goal.workplace R.goal.destination = .ok u) ↔
      ∃ up d n, FilePath.parent? R.goal.destination = some up ∧
        t.directoryAt R.goal.workplace.key up = some d ∧ R.goal.IsPlace t (n :: d) ∧
        n.utf8ByteSize ≤ 255 ∧ t.isDir (n :: d) = false ∧ t.refusal? d = none := by
  obtain ⟨up, d, hstages⟩ := h.staged i st hst
  obtain ⟨content, hfile⟩ := (h.fits i).file hst
  have hway := h.directoryAt_of_open hopen hstages.parent hstages.directory
  rw [hstages.commit_isOk_iff h.shared hfile hway]
  constructor
  · rintro ⟨n, hplace⟩
    exact ⟨up, d, n, hstages.parent, hstages.directory, hplace⟩
  · rintro ⟨up', d', n, hup, hd, hplace⟩
    obtain rfl := Option.some.inj (hstages.parent.symm.trans hup)
    obtain rfl := Option.some.inj (hstages.directory.symm.trans hd)
    exact ⟨n, hplace⟩

theorem commit_of_commit {st' : Staged} (h : R.Sound t c) (h' : R.Sound t c')
    (hopen : R.IsCut t c' → R.IsCut t c) (hst : (c.stage i).staged? = some st)
    (hst' : (c'.stage k).staged? = some st')
    (hmove : ∃ u, st.commit c.tree R.goal.workplace R.goal.destination = .ok u) :
    ∃ u, st'.commit c'.tree R.goal.workplace R.goal.destination = .ok u := by
  have hway := h.not_isCut_of_commit hst hmove
  rw [h'.commit_isOk_iff (mt hopen hway) hst']
  exact (h.commit_isOk_iff hway hst).1 hmove

theorem create_of_create (h : R.Sound t c) (h' : R.Sound t c') (hopen : R.IsCut t c' → R.IsCut t c)
    (hfree : Staged.HasFreeName c.tree) (hfree' : Staged.HasFreeName c'.tree)
    (hup : FilePath.parent? R.goal.destination = some up)
    (hmade : ∃ made, Staged.create c.tree R.goal.workplace up = .ok made) :
    ∃ made, Staged.create c'.tree R.goal.workplace up = .ok made := by
  obtain ⟨⟨u, st⟩, hmade⟩ := hmade
  obtain ⟨d, last, hloc, htakes, -, -⟩ := Staged.create_made hmade
  have hn := Staged.isName_freshName c.tree
  obtain ⟨hfault, -, hd⟩ := (locateParent_join_iff hn).1 hloc
  have hopen' : ¬R.IsCut t c' := fun hcut => by
    rw [h.directoryAt_of_cut (hopen hcut) hup] at hd
    cases hd
  have hd' := h'.directoryAt_of_open hopen' hup (h.shared.patched.directoryAt_of_directoryAt hd)
  have htakes' : c'.tree.refusal? d = none := by
    rw [refusal?, h'.shared.sealed, ← h.shared.sealed]
    exact htakes
  exact Staged.create_isOk hd' htakes' hfree' hfree hfault

end Sound

theorem receiving_tree {r : Reception} {rest : List Step}
    (hg : (c.stage i).withTree c.tree = .receiving r rest) :
    r.transfer.tree = c.tree ∧ (c.stage i).staged? = some r.staged := by
  have htree := Stage.withTree_transfer_tree c.tree (c.stage i)
  have hst := Stage.withTree_staged? c.tree (c.stage i)
  rw [hg] at htree hst
  exact ⟨htree, hst.symm⟩

/-- A download that is left out has cut off the way. -/
def Parted (R : Rivals ι) (keep : ι → Bool) (t : Tree) (c : Crowd ι) : Prop :=
  R.IsCut t c ∧ ∃ k ∈ c.moved, keep k = false

/-- All downloads, and those that are kept without the others: the kept ones are as far, with the
same outcome, and they have moved their files in the same order. -/
structure Kept (R : Rivals ι) (keep : ι → Bool) (t : Tree) (c c' : Crowd ι) : Prop where
  sound : R.Sound t c
  sound' : R.Sound t c'
  alike : ∀ k, keep k = true → (c.stage k).outline = (c'.stage k).outline
  moved : c'.moved = c.moved.filter keep

namespace Kept

theorem isCut_iff (h : R.Kept keep t c c') (hopen : ¬R.Parted keep t c) :
    R.IsCut t c' ↔ R.IsCut t c := by
  constructor
  · rintro ⟨hne, htangled⟩
    refine ⟨fun hnil => hne ?_, htangled⟩
    rw [h.moved, hnil]
    rfl
  · intro hcut
    have hall : ∀ k ∈ c.moved, keep k = true := by
      intro k hk
      cases hdrop : keep k with
      | true => rfl
      | false => exact absurd ⟨hcut, k, hk, hdrop⟩ hopen
    refine ⟨?_, hcut.2⟩
    rw [h.moved, List.filter_eq_self.2 hall]
    exact hcut.1

theorem advance_answered {s s' : Transfer} (h : R.Kept keep t c c')
    (hcut : R.IsCut t c' ↔ R.IsCut t c)
    (hfree : Staged.HasFreeName c.tree) (hfree' : Staged.HasFreeName c'.tree)
    (hg : (c.stage i).withTree c.tree = .answered up s)
    (hg' : (c'.stage i).withTree c'.tree = .answered up s') (hsame : s.outline = s'.outline) :
    (R.advance c i).outline = (R.advance c' i).outline := by
  obtain ⟨htree, hup⟩ := h.sound.answered hg
  obtain ⟨htree', -⟩ := h.sound'.answered hg'
  have hmade := h.sound.create_of_create h.sound' hcut.1 hfree hfree' hup
  have hmade' := h.sound'.create_of_create h.sound hcut.2 hfree' hfree hup
  rw [← htree, ← htree'] at hmade hmade'
  rw [advance, advance, hg, hg', Stage.next, Stage.next]
  exact stage_outline hsame ⟨hmade, hmade'⟩

theorem advance_outline (h : R.Kept keep t c c') (hopen : ¬R.Parted keep t c)
    (hfree : Staged.HasFreeName c.tree) (hfree' : Staged.HasFreeName c'.tree)
    (hi : keep i = true) :
    (R.advance c i).outline = (R.advance c' i).outline := by
  have hcut := h.isCut_iff hopen
  have hsame : ((c.stage i).withTree c.tree).outline = ((c'.stage i).withTree c'.tree).outline := by
    rw [Stage.outline_withTree, Stage.outline_withTree, h.alike i hi]
  by_cases hanswered : ∃ up s s', (c.stage i).withTree c.tree = .answered up s ∧
      (c'.stage i).withTree c'.tree = .answered up s'
  · obtain ⟨up, s, s', hg, hg'⟩ := hanswered
    rw [hg, hg'] at hsame
    exact h.advance_answered hcut hfree hfree' hg hg' (Stage.answered.inj hsame).2
  · refine Stage.next_outline hsame (fun up s s' hg hg' => ?_) fun r r' hg hg' => ?_
    · exact absurd ⟨up, s, s', hg, hg'⟩ hanswered
    · obtain ⟨htree, hst⟩ := receiving_tree hg
      obtain ⟨htree', hst'⟩ := receiving_tree hg'
      rw [htree, htree']
      exact ⟨h.sound.commit_of_commit h.sound' hcut.1 hst hst',
        h.sound'.commit_of_commit h.sound hcut.2 hst' hst⟩

end Kept

variable [DecidableEq ι]

theorem moved_subset_step (R : Rivals ι) (c : Crowd ι) (i : ι) : c.moved ⊆ (R.step c i).moved := by
  intro k hk
  simp only [step]
  split
  · exact List.mem_cons_of_mem i hk
  · exact hk

theorem IsCut.step (h : R.IsCut t c) (i : ι) : R.IsCut t (R.step c i) := by
  obtain ⟨k, hk⟩ := List.exists_mem_of_ne_nil _ h.1
  exact ⟨List.ne_nil_of_mem (moved_subset_step R c i hk), h.2⟩

theorem Parted.step (h : R.Parted keep t c) (i : ι) : R.Parted keep t (R.step c i) := by
  obtain ⟨hcut, k, hk, hdrop⟩ := h
  exact ⟨hcut.step i, k, moved_subset_step R c i hk, hdrop⟩

namespace Kept

theorem step_kept (h : R.Kept keep t c c') (hopen : ¬R.Parted keep t c)
    (hfree : Staged.HasFreeName c.tree) (hfree' : Staged.HasFreeName c'.tree)
    (hown : ∀ m, Staged.numbered m ∉ steps R.goal.destination)
    (hquiet : Response.changes (R.attempt i).response.steps = []) (hi : keep i = true) :
    R.Kept keep t (R.step c i) (R.step c' i) := by
  have hadvance := h.advance_outline hopen hfree hfree' hi
  refine ⟨h.sound.step hown hquiet, h.sound'.step hown hquiet, ?_, ?_⟩
  · intro k hk
    by_cases hki : k = i
    · rw [hki, step_stage_self, step_stage_self]
      exact hadvance
    · rw [step_stage_of_ne R c hki, step_stage_of_ne R c' hki]
      exact h.alike k hk
  · have hbefore := congrArg Stage.isCompleted (h.alike i hi)
    have hafter := congrArg Stage.isCompleted hadvance
    rw [Stage.isCompleted_outline, Stage.isCompleted_outline] at hbefore hafter
    simp only [Rivals.step, hbefore, hafter, h.moved]
    split
    · rw [List.filter_cons_of_pos hi]
    · rfl

theorem step_left_out (h : R.Kept keep t c c')
    (hown : ∀ m, Staged.numbered m ∉ steps R.goal.destination)
    (hquiet : Response.changes (R.attempt i).response.steps = []) (hi : keep i = false) :
    R.Kept keep t (R.step c i) c' where
  sound := h.sound.step hown hquiet
  sound' := h.sound'
  alike k hk := by
    have hki : k ≠ i := fun heq => by simp [heq, hi] at hk
    rw [step_stage_of_ne R c hki]
    exact h.alike k hk
  moved := by
    rw [h.moved]
    simp only [step]
    split
    · simp [hi]
    · rfl

end Kept

/-- There is a name for every staged file, whatever part of the schedule is followed. -/
def NamesLast (R : Rivals ι) (t : Tree) (schedule : List ι) : Prop :=
  ∀ part, part.Sublist schedule → Staged.HasFreeName (R.run t part).tree

theorem run_append_singleton (R : Rivals ι) (t : Tree) (schedule : List ι) (i : ι) :
    R.run t (schedule ++ [i]) = R.step (R.run t schedule) i := by
  rw [run, List.foldl_append]
  rfl

/-- Leaving out some downloads changes nothing for the others, as long as none that is left out cuts
off the way. -/
theorem kept_run (R : Rivals ι) (hown : ∀ m, Staged.numbered m ∉ steps R.goal.destination)
    (hquiet : ∀ i, Response.changes (R.attempt i).response.steps = []) (keep : ι → Bool) (t : Tree)
    {schedule : List ι} (hnames : R.NamesLast t schedule) :
    R.Parted keep t (R.run t schedule) ∨
      R.Kept keep t (R.run t schedule) (R.run t (schedule.filter keep)) := by
  -- the schedule grows at its end, so that what has been run is a part of it
  induction schedule using List.reverseRecOn with
  | nil => exact Or.inr ⟨sound_start R t, sound_start R t, fun _ _ => rfl, rfl⟩
  | append_singleton schedule i ih =>
    have hpart : schedule.Sublist (schedule ++ [i]) := List.sublist_append_left schedule [i]
    have hkept : (schedule.filter keep).Sublist (schedule ++ [i]) :=
      List.filter_sublist.trans hpart
    rw [run_append_singleton]
    rcases ih fun part h => hnames part (h.trans hpart) with hparted | hsame
    · exact Or.inl (hparted.step i)
    · rw [List.filter_append]
      cases hi : keep i with
      | true =>
        rw [List.filter_cons_of_pos hi, List.filter_nil, run_append_singleton]
        by_cases hparted : R.Parted keep t (R.run t schedule)
        · exact Or.inl (hparted.step i)
        · exact Or.inr (hsame.step_kept hparted (hnames _ hpart) (hnames _ hkept) hown
            (hquiet i) hi)
      | false =>
        rw [List.filter_cons_of_neg (by simp [hi]), List.filter_nil, List.append_nil]
        exact Or.inr (hsame.step_left_out hown (hquiet i) hi)

theorem result_of_alone (R : Rivals ι) (t : Tree) {schedule : List ι}
    (h : ∀ k ∈ schedule, k = i) :
    ((R.run t schedule).stage i).result (R.job i) (R.attempt i).response =
      Download.run (R.job i) (R.attempt i).response
        (.start t (R.attempt i).cancellation (R.attempt i).paced) := by
  have hrun : ∀ c, (c.stage i).transfer.tree = c.tree →
      ((schedule.foldl R.step c).stage i).result (R.job i) (R.attempt i).response =
        (c.stage i).result (R.job i) (R.attempt i).response := by
    induction schedule with
    | nil => exact fun c _ => rfl
    | cons k schedule ih =>
      intro c htree
      obtain rfl := h k List.mem_cons_self
      have hadvance : R.advance c k = (c.stage k).next (R.job k) (R.attempt k).response := by
        rw [advance, ← htree, Stage.withTree_self]
      rw [List.foldl_cons, ih (fun k' hk' => h k' (List.mem_cons_of_mem _ hk')) _ ?_,
        step_stage_self, hadvance, Stage.result_next]
      rw [step_stage_self]
      rfl
  exact hrun _ rfl

theorem ended_of_count (R : Rivals ι) (t : Tree) {schedule : List ι}
    (h : 2 * (R.attempt i).response.steps.length + 5 ≤ schedule.count i) :
    ∃ s e, (R.run t schedule).stage i = .ended s e := by
  have hrun : ∀ c, ((schedule.foldl R.step c).stage i).left (R.attempt i).response ≤
      (c.stage i).left (R.attempt i).response - schedule.count i := by
    clear h
    induction schedule with
    | nil => exact fun c => Nat.le_refl _
    | cons k schedule ih =>
      intro c
      have hrest := ih (R.step c k)
      by_cases hk : k = i
      · subst hk
        have hnext : (R.advance c k).left (R.attempt k).response ≤
            ((c.stage k).withTree c.tree).left (R.attempt k).response - 1 := Stage.left_next _
        rw [Stage.withTree_left] at hnext
        rw [step_stage_self] at hrest
        rw [List.count_cons_self, List.foldl_cons]
        omega
      · rw [step_stage_of_ne R c (Ne.symm hk)] at hrest
        rw [List.count_cons_of_ne hk, List.foldl_cons]
        exact hrest
  have hleft := hrun (R.start t)
  have hstart : ((R.start t).stage i).left (R.attempt i).response =
      2 * (R.attempt i).response.steps.length + 5 := rfl
  change ((R.run t schedule).stage i).left (R.attempt i).response ≤ _ at hleft
  have hzero : ((R.run t schedule).stage i).left (R.attempt i).response = 0 := by omega
  exact Stage.exists_ended hzero

/-- A download that has not moved its file changes nothing for the others. -/
theorem unmoved_left_out (R : Rivals ι) (hown : ∀ m, Staged.numbered m ∉ steps R.goal.destination)
    (hquiet : ∀ i, Response.changes (R.attempt i).response.steps = []) {schedule : List ι}
    (hk : k ∉ (R.run t schedule).moved) (hnames : R.NamesLast t schedule) :
    (R.run t (schedule.filter (· ≠ k))).moved = (R.run t schedule).moved ∧
      ∀ i, i ≠ k → ((R.run t (schedule.filter (· ≠ k))).stage i).outline =
        ((R.run t schedule).stage i).outline := by
  have hkept : ∀ i ∈ (R.run t schedule).moved, decide (i ≠ k) = true := fun i hi =>
    decide_eq_true fun heq => hk (heq ▸ hi)
  rcases R.kept_run hown hquiet (fun i => decide (i ≠ k)) t hnames with
    ⟨-, i, hi, hdrop⟩ | hsame
  · have hboth : true = false := (hkept i hi).symm.trans hdrop
    cases hboth
  · exact ⟨hsame.moved.trans (List.filter_eq_self.2 hkept), fun i hi =>
      (hsame.alike i (decide_eq_true hi)).symm⟩

/-- A download ends among others as it ends on its own, while the way is open. -/
theorem ended_as_alone (R : Rivals ι) (hown : ∀ m, Staged.numbered m ∉ steps R.goal.destination)
    (hquiet : ∀ i, Response.changes (R.attempt i).response.steps = []) {schedule : List ι}
    {s s' : Transfer} {e e' : Ending} (hopen : ¬R.IsCut t (R.run t schedule))
    (hnames : R.NamesLast t schedule)
    (hended : (R.run t schedule).stage i = .ended s e)
    (halone : Download.run (R.job i) (R.attempt i).response
      (.start t (R.attempt i).cancellation (R.attempt i).paced) = (s', e')) :
    s.outline = s'.outline ∧ e.outline = e'.outline := by
  rcases R.kept_run hown hquiet (fun k => decide (k = i)) t hnames with
    ⟨hcut, -⟩ | hsame
  · exact absurd hcut hopen
  · have halike := hsame.alike i (decide_eq_true rfl)
    have hself : ∀ k ∈ schedule.filter fun k => decide (k = i), k = i := fun k hk =>
      of_decide_eq_true (List.mem_filter.1 hk).2
    have hresult := R.result_of_alone t hself
    rw [hended] at halike
    rw [halone] at hresult
    generalize (R.run t (schedule.filter fun k => decide (k = i))).stage i = g at halike hresult
    cases g with
    | ended s₁ e₁ =>
      obtain ⟨hs, he⟩ := Stage.ended.inj halike
      obtain ⟨rfl, rfl⟩ := Prod.mk.inj hresult
      exact ⟨hs, he⟩
    | _ => cases halike

/-- However the steps of downloads to one destination are interleaved, the destination holds what it
held at first until a download moves its file there, and from then on the whole body of the last one
that did. All else is as at first but for staged files, and these are gone when all downloads have
ended; only a download that has cut off the way to its own destination can strand them. A download
that does not complete changes nothing for the others, and each ends as it would on its own. -/
theorem last_mover_stands (R : Rivals ι)
    (hown : ∀ m, Staged.numbered m ∉ steps R.goal.destination)
    (hquiet : ∀ i, Response.changes (R.attempt i).response.steps = []) (t : Tree)
    (schedule : List ι) :
    let c := R.run t schedule
    (∀ i, i ∈ c.moved ↔ (c.stage i).isCompleted = true) ∧
    (∀ q, R.goal.IsPlace t q →
      (c.moved = [] ∧ c.tree.get? q = t.get? q) ∨
        ∃ i, c.moved.head? = some i ∧ (R.attempt i).response.IsWhole ∧
          c.tree.get? q = some (.file 0o755 (R.body i))) ∧
    (∀ q, ¬R.goal.IsPlace t q →
      c.tree.get? q = t.get? q ∨
        t.get? q = none ∧ R.IsHeld t c q ∧
          ∃ mode content, c.tree.get? q = some (.file mode content)) ∧
    (∀ up q, FilePath.parent? R.goal.destination = some up → ¬R.IsCut t c →
      (R.goal.IsPlace c.tree q ↔ R.goal.IsPlace t q)) ∧
    (∀ i, 2 * (R.attempt i).response.steps.length + 5 ≤ schedule.count i →
      ∃ s e, c.stage i = .ended s e) ∧
    ((∀ i, ∃ s e, c.stage i = .ended s e) → ¬R.IsCut t c →
      ∀ q, ¬R.goal.IsPlace t q → c.tree.get? q = t.get? q) ∧
    (∀ k, k ∉ c.moved →
      let c' := R.run t (schedule.filter (· ≠ k))
      R.NamesLast t schedule →
        c'.moved = c.moved ∧ ∀ i, i ≠ k → (c'.stage i).outline = (c.stage i).outline) ∧
    ∀ i s e s' e', c.stage i = .ended s e → ¬R.IsCut t c → R.NamesLast t schedule →
      Download.run (R.job i) (R.attempt i).response
          (.start t (R.attempt i).cancellation (R.attempt i).paced) = (s', e') →
        s.outline = s'.outline ∧ e.outline = e'.outline := by
  intro c
  have hsound : R.Sound t c := sound_run R hown hquiet t schedule
  refine ⟨hsound.moved, ?_, hsound.shared.other, ?_, ?_, ?_, ?_, ?_⟩
  · intro q hq
    exact hsound.place_cases hq
  · intro up q hup hopen
    exact hsound.isPlace_iff hopen hup
  · intro i hi
    exact R.ended_of_count t hi
  · intro hended hopen q hq
    exact hsound.get?_of_ended hopen hended hq
  · intro k hk c' hnames
    exact R.unmoved_left_out hown hquiet hk hnames
  · intro i s e s' e' hended hopen hnames halone
    exact R.ended_as_alone hown hquiet hopen hnames hended halone

/-- Two downloads, the first of which breaks off. -/
def pair (destination : String) : Rivals Bool where
  goal := ⟨⟨[], "/"⟩, destination⟩
  attempt
    | false => ⟨"u", ⟨1, 0⟩, { steps := [.chunk [97, 98], .fail (.body "gone")] }, {}, false⟩
    | true => ⟨"u", ⟨1, 0⟩, { steps := [.chunk [99, 100]] }, {}, false⟩

/-- The second download takes all its steps while the first one holds a part of its body. -/
def overtaken : List Bool :=
  List.replicate 5 false ++ List.replicate 7 true ++ List.replicate 4 false

/-- The destination's path goes through a link at its own place. -/
def tangledTree : Tree :=
  ⟨[(["d"], .dir), (["foo", "d"], .dir), (["x", "d"], .link "foo")], []⟩

/-- All downloads have ended, and yet a staged file is left. -/
theorem replaced_link_strands_file :
    let c := (pair "d/x/../x").run tangledTree overtaken
    c.stage false = .ended (c.stage false).transfer (.failed (.transport (.body "gone"))) ∧
      c.stage true = .ended (c.stage true).transfer (.completed 2) ∧
      c.tree =
        ⟨[(["d"], .dir), (["foo", "d"], .dir), ([".tmp0000000000", "d"], .file 0o755 [97, 98]),
          (["x", "d"], .file 0o755 [99, 100])], []⟩ := by
  decide +kernel

def plainTree : Tree :=
  ⟨[(["d"], .dir)], []⟩

/-- A part of the schedule holds fewer steps of each of its three stretches. -/
theorem overtaken_names_last : (pair "d/x").NamesLast plainTree overtaken := by
  have hshort : ∀ a < 6, ∀ b < 8, ∀ d < 5,
      (((pair "d/x").run plainTree (List.replicate a false ++ List.replicate b true ++
        List.replicate d false)).tree.entries.flatMap Staged.namesIn).length < 10000000000 := by
    decide +kernel
  intro part hpart
  obtain ⟨front, back, rfl, hfront, hback⟩ := List.sublist_append_iff.1 hpart
  obtain ⟨first, second, rfl, hfirst, hsecond⟩ := List.sublist_append_iff.1 hfront
  obtain ⟨a, ha, rfl⟩ := List.sublist_replicate_iff.1 hfirst
  obtain ⟨b, hb, rfl⟩ := List.sublist_replicate_iff.1 hsecond
  obtain ⟨d, hd, rfl⟩ := List.sublist_replicate_iff.1 hback
  exact Staged.hasFreeName_of_length (hshort a (by omega) b (by omega) d (by omega))

/-- Where the path of the destination is plain, only the whole body is left. -/
theorem overtaken_leaves_no_trace :
    let t := plainTree
    let c := (pair "d/x").run t overtaken
    (∀ m, Staged.numbered m ∉ steps (pair "d/x").goal.destination) ∧
      (∀ i, Response.changes ((pair "d/x").attempt i).response.steps = []) ∧
      c.tree.get? ["x", "d"] = some (.file 0o755 [99, 100]) ∧
      (∀ q, q ≠ ["x", "d"] → c.tree.get? q = t.get? q) ∧
      ((pair "d/x").run t (overtaken.filter (· ≠ false))).moved = [true] := by
  intro t c
  have hown : ∀ m, Staged.numbered m ∉ steps (pair "d/x").goal.destination := by
    intro m hm
    have hsteps : steps (pair "d/x").goal.destination = ["d", "x"] := by decide +kernel
    rw [hsteps] at hm
    simp only [List.mem_cons, List.not_mem_nil, or_false] at hm
    rcases hm with hm | hm
    · simpa [Staged.numbered_toList] using congrArg String.toList hm
    · simpa [Staged.numbered_toList] using congrArg String.toList hm
  have hquiet : ∀ i, Response.changes ((pair "d/x").attempt i).response.steps = [] := by
    decide +kernel
  have hplace : ∀ q, (pair "d/x").goal.IsPlace t q ↔ q = ["x", "d"] := by
    have hloc : t.locateParent [] "d/x" = .ok (["d"], .name "x" false) :=
      Tree.toOption_eq_some_iff.1 (by decide +kernel)
    intro q
    constructor
    · rintro ⟨d, n, hloc', rfl⟩
      obtain ⟨rfl, hlast⟩ := Prod.mk.inj (Except.ok.inj (hloc.symm.trans hloc'))
      rw [(LastStep.name.inj hlast).1]
    · exact fun hq => ⟨["d"], "x", hloc, hq⟩
  have hopen : ¬(pair "d/x").IsCut t c := by
    rintro ⟨-, k, up, hk, hup, hnone⟩
    obtain rfl := (hplace k).1 hk
    obtain rfl := Option.some.inj (hup.symm.trans (by decide +kernel : _ = some "d"))
    exact absurd hnone (by decide +kernel)
  have hended : ∀ i, ∃ s e, c.stage i = .ended s e := by
    have hboth : (c.stage false).left ((pair "d/x").attempt false).response = 0 ∧
        (c.stage true).left ((pair "d/x").attempt true).response = 0 := by decide +kernel
    intro i
    cases i with
    | false => exact Stage.exists_ended hboth.1
    | true => exact Stage.exists_ended hboth.2
  have hmoved : c.moved = [true] := by decide +kernel
  obtain ⟨-, hdestination, -, -, -, hgone, hleft, -⟩ :=
    last_mover_stands (pair "d/x") hown hquiet t overtaken
  refine ⟨hown, hquiet, ?_, ?_, (hleft false (by decide +kernel) overtaken_names_last).1.trans
    hmoved⟩
  · rcases hdestination ["x", "d"] ((hplace _).2 rfl) with ⟨hnone, -⟩ | ⟨i, hlast, -, hbody⟩
    · rw [hmoved] at hnone
      cases hnone
    · rw [hmoved] at hlast
      obtain rfl := Option.some.inj hlast
      exact hbody
  · intro q hq
    exact hgone hended hopen q (mt (hplace q).1 hq)

end Rivals

end ServerLauncher
