import ServerLauncher.Proofs.Cancellation
import ServerLauncher.Proofs.Waits

/-!
The stall time bounds each wait of a download and nothing else. It begins anew with each wait, and
the first wait that takes longer ends the download just when its time is up, unless something else
has gone wrong before. So a download takes at most one stall time for each item, and two more.
-/

namespace ServerLauncher

theorem Transfer.report_watch (s : Transfer) (e : Progress.Event) :
    (s.report e).watch.now = s.watch.now ∧ (s.report e).watch.limit = s.watch.limit := by
  unfold report
  dsimp only
  split
  · exact ⟨rfl, rfl⟩
  · exact ⟨rfl, rfl⟩

namespace Download

/-- The end that a passage of waits makes. -/
def EndsAs (j : Job) (went : Transfer × Ending) : Wait.Passage → Prop
  | .stalled time =>
    went.2 = .failed (.transport (.stalled j.stall)) ∧ went.1.watch.now = time
  | .failed e => went.2 = .failed (.transport e)
  | .unwritten e => ∃ path, went.2 = .failed (.file "write to" path e)
  | .through => ∃ r : Reception, went = r.finish j

namespace Reception

variable {j : Job} {r r' : Reception} {step : Step} {ss : List Step} {left n time : Nat}

theorem setWatch_watch (r : Reception) (w : Watch) : (r.setWatch w).transfer.watch = w := rfl

theorem report_getD_watch (s : Transfer) (event : Option Progress.Event) :
    ((event.map s.report).getD s).watch.now = s.watch.now ∧
      ((event.map s.report).getD s).watch.limit = s.watch.limit := by
  cases event with
  | none => exact ⟨rfl, rfl⟩
  | some e => exact s.report_watch e

theorem keep_watch (r : Reception) (bytes : Bytes) :
    (r.keep bytes).transfer.watch.now = r.transfer.watch.now ∧
      (r.keep bytes).transfer.watch.limit = r.transfer.watch.limit :=
  report_getD_watch { r.transfer with tree := r.staged.write r.transfer.tree bytes } _

theorem finish_now (j : Job) (r : Reception) :
    (r.finish j).1.watch.now = r.transfer.watch.now := by
  have htold : r.told.transfer.watch.now = r.transfer.watch.now := (report_getD_watch ..).1
  rw [finish_eq]
  split
  · rfl
  · split
    · exact htold
    · exact htold

theorem finish_ne_stalled (j : Job) (r : Reception) (after : Duration) :
    (r.finish j).2 ≠ .failed (.transport (.stalled after)) := by
  rcases r.finish_cases j with ⟨e, s', hfault, hf, -⟩ | ⟨-, ⟨s', hf, -⟩ | ⟨s', e, hf, -⟩⟩
  · rw [hf]
    have hne : e ≠ .transport (.stalled after) := by
      rintro rfl
      unfold fault? at hfault
      split at hfault
      · cases hfault
      · obtain ⟨_, _, heq⟩ := Option.map_eq_some_iff.1 hfault
        cases heq
    simpa using hne
  · rw [hf]
    simp
  · rw [hf]
    simp

/-- A body that nobody cancels ends as its waits pass. A part `n` of the current wait is over. -/
theorem Calm.endsAs (h : r.Calm left) (hleft : left + n = j.stallMillis)
    (hnow : r.transfer.watch.now = time + n) (hsteps : .cancel ∉ ss) :
    EndsAs j (r.run j ss) (Wait.passage j.stallMillis time (Response.bodyWaits n ss)) := by
  -- a step takes from what is left of the wait what it adds to the part that is over
  induction ss generalizing r left n time with
  | nil =>
    have hgood : Wait.IsGood j.stallMillis ⟨some n, none, none⟩ :=
      ⟨Wait.not_isOver_some (by omega), rfl, rfl⟩
    rw [Response.bodyWaits, Wait.passage_of_good hgood]
    exact ⟨r, rfl⟩
  | cons step rest ih =>
    have hrest : .cancel ∉ rest := fun hmem => hsteps (List.mem_cons_of_mem _ hmem)
    have htimely : ∀ error unwritten,
        Wait.isOver j.stallMillis ⟨some n, error, unwritten⟩ = false :=
      fun error unwritten => Wait.not_isOver_some (by omega)
    have hlimit := h.watch.limit
    rw [run]
    cases step with
    | chunk bytes =>
      have hgood : Wait.IsGood j.stallMillis ⟨some n, none, none⟩ :=
        ⟨htimely none none, rfl, rfl⟩
      rw [Response.bodyWaits, Wait.passage_of_good hgood]
      obtain ⟨r', hgo, hcalm⟩ := (h.keep bytes).await j
      obtain ⟨-, w, rfl, hr'⟩ := await_go hgo
      have hnow' : r'.transfer.watch.now = time + n := by
        rw [hr', setWatch_watch, Watch.renew_now, (keep_watch r bytes).1, hnow]
      rw [take, hgo]
      exact ih hcalm (by omega) hnow' hrest
    | unwritten kept e =>
      rw [Response.bodyWaits, Wait.passage_of_unwritten (htimely _ _) rfl rfl]
      exact ⟨_, rfl⟩
    | fail e =>
      rw [Response.bodyWaits, Wait.passage_of_error (htimely _ _) rfl]
      exact rfl
    | wait millis =>
      rw [Response.bodyWaits]
      by_cases hwait : millis ≤ left
      · obtain ⟨w, hpass, hcalm⟩ := h.watch.pass hwait
        have hnow' : (r.setWatch w).transfer.watch.now = time + (n + millis) := by
          rw [← Nat.add_assoc, ← hnow]
          exact Watch.now_of_pass hpass
        rw [take, hpass]
        exact ih (h.setWatch hcalm) (by omega) hnow' hrest
      · rw [Response.passage_of_over (by omega), take, h.watch.pass_of_lt (by omega)]
        refine ⟨rfl, ?_⟩
        change r.transfer.watch.limit = _
        omega
    | hang =>
      rw [Response.bodyWaits, Wait.passage_of_isOver rfl, take, h.watch.hang]
      refine ⟨rfl, ?_⟩
      change r.transfer.watch.limit = _
      omega
    | cancel => exact absurd (List.mem_cons_self ..) hsteps
    | change c => exact ih ⟨h.watch, h.onEvent⟩ hleft hnow hrest

theorem take_go_limit (h : r.transfer.watch.now ≤ r.transfer.watch.limit)
    (hgo : r.take j step = .go r') :
    r'.transfer.watch.now ≤ r'.transfer.watch.limit ∧
      r'.transfer.watch.limit ≤
        r.transfer.watch.limit + (if step.isItem then j.stallMillis else 0) := by
  cases step with
  | chunk bytes =>
    rw [take] at hgo
    obtain ⟨hnow, hlimit⟩ := keep_watch r bytes
    obtain ⟨-, w, rfl, rfl⟩ := await_go hgo
    rw [setWatch_watch, Watch.renew_now, Watch.renew_limit, hnow]
    have hitem : (if (Step.chunk bytes).isItem then j.stallMillis else 0) = j.stallMillis :=
      if_pos rfl
    rw [hitem]
    omega
  | unwritten kept e => cases hgo
  | fail e => cases hgo
  | wait millis =>
    obtain ⟨hnow, hlimit⟩ := Watch.pass_le_limit h millis
    simp only [take] at hgo
    split at hgo
    · rename_i w hpass
      obtain rfl := Turn.go.inj hgo
      rw [hpass] at hnow hlimit
      dsimp only at hnow hlimit
      rw [setWatch_watch, hlimit]
      exact ⟨hnow, Nat.le_add_right ..⟩
    · cases hgo
  | hang => simp [take, stop] at hgo
  | cancel =>
    obtain rfl := Turn.go.inj hgo
    exact ⟨h, Nat.le_refl _⟩
  | change c =>
    obtain rfl := Turn.go.inj hgo
    exact ⟨h, Nat.le_refl _⟩

theorem take_stop_now (h : r.transfer.watch.now ≤ r.transfer.watch.limit) {t : Transfer}
    {e : Ending} (hstop : r.take j step = .stop t e) :
    t.watch.now ≤ r.transfer.watch.limit := by
  cases step with
  | chunk bytes =>
    rw [take] at hstop
    obtain ⟨hnow, -⟩ := keep_watch r bytes
    obtain ⟨-, -, rfl⟩ := await_stop hstop
    change (r.keep bytes).transfer.watch.now ≤ _
    omega
  | unwritten kept e' =>
    obtain ⟨rfl, -⟩ := Turn.stop.inj hstop
    exact h
  | fail e' =>
    obtain ⟨rfl, -⟩ := Turn.stop.inj hstop
    exact h
  | wait millis =>
    obtain ⟨hnow, -⟩ := Watch.pass_le_limit h millis
    simp only [take] at hstop
    split at hstop
    · cases hstop
    · rename_i w i hpass
      obtain ⟨rfl, -⟩ := Turn.stop.inj hstop
      rw [hpass] at hnow
      exact hnow
  | hang =>
    obtain ⟨rfl, -⟩ := Turn.stop.inj hstop
    exact Watch.hang_le_limit h
  | cancel => cases hstop
  | change c => cases hstop

/-- After the current wait a body takes at most one stall time for each item that is taken. -/
theorem run_now_le (h : r.transfer.watch.now ≤ r.transfer.watch.limit) :
    (r.run j ss).1.watch.now ≤
      r.transfer.watch.limit + (r.taken j ss).countP Step.isItem * j.stallMillis := by
  induction ss generalizing r with
  | nil =>
    rw [run, finish_now]
    exact Nat.le_add_right_of_le h
  | cons step rest ih =>
    rw [run, taken]
    cases hturn : r.take j step with
    | stop t e => exact Nat.le_add_right_of_le (take_stop_now h hturn)
    | go r' =>
      obtain ⟨hnow, hlimit⟩ := take_go_limit h hturn
      have hrun := ih hnow
      dsimp only
      rw [List.countP_cons, Nat.add_mul]
      split at hlimit
      · rename_i hitem
        rw [if_pos hitem, Nat.one_mul]
        omega
      · rename_i hitem
        rw [if_neg hitem, Nat.zero_mul]
        omega

end Reception

variable {j : Job} {response : Response} {s : Transfer} {dir : String}

/-- Nobody cancels. -/
structure Uncancelled (response : Response) (s : Transfer) : Prop where
  fired : s.watch.fired = false
  fireAt : s.watch.fireAt = none
  onEvent : s.onEvent = none
  cancels : response.cancels = false
  steps : .cancel ∉ response.steps

theorem Uncancelled.fetch_of_isOver (h : Uncancelled response s)
    (hover : response.answerWait.isOver j.stallMillis = true) :
    ∃ t, fetch j response s = (t, some (.failed (.transport (.stalled j.stall)))) ∧
      t.watch.now = s.watch.now + j.stallMillis := by
  have hcalm := Watch.Calm.renew h.fired h.fireAt j.stallMillis
  by_cases hdelay : response.delay ≤ j.stallMillis
  · obtain ⟨w, hpass, hw⟩ := hcalm.pass hdelay
    have hhang : response.answer = .hang := by
      unfold Response.answerWait at hover
      cases ha : response.answer with
      | hang => rfl
      | body =>
        rw [ha] at hover
        exact absurd (Wait.isOver_some.1 hover) (Nat.not_lt.2 hdelay)
      | fail e =>
        rw [ha] at hover
        exact absurd (Wait.isOver_some.1 hover) (Nat.not_lt.2 hdelay)
    have hlimit : w.limit = s.watch.now + j.stallMillis := by
      rw [hw.limit, Watch.now_of_pass hpass, Watch.renew_now]
      omega
    refine ⟨{ s with requests := s.requests ++ [j.url], watch := { w with now := w.limit } }, ?_,
      hlimit⟩
    unfold fetch
    dsimp only
    rw [hpass, h.cancels, hhang]
    dsimp only
    rw [if_neg Bool.false_ne_true, hw.hang]
    rfl
  · have hpass := hcalm.pass_of_lt (Nat.lt_of_not_le hdelay)
    refine ⟨{ s with requests := s.requests ++ [j.url], watch := { s.watch.renew j.stallMillis with
      now := (s.watch.renew j.stallMillis).limit } }, ?_, Watch.renew_limit ..⟩
    unfold fetch
    dsimp only
    rw [hpass]
    rfl

theorem Uncancelled.fetch_of_timely (h : Uncancelled response s)
    (htimely : response.answerWait.isOver j.stallMillis = false) :
    ∃ w left, w.Calm left ∧ w.now = s.watch.now + response.answerWait.length.getD 0 ∧
      fetch j response s = ({ s with requests := s.requests ++ [j.url], watch := w },
        response.answerWait.error.map fun e => .failed (.transport e)) := by
  have hanswer : response.answer ≠ .hang ∧ response.answerWait.length = some response.delay := by
    unfold Response.answerWait at htimely ⊢
    cases ha : response.answer with
    | body => exact ⟨by simp, rfl⟩
    | fail e => exact ⟨by simp, rfl⟩
    | hang =>
      rw [ha] at htimely
      cases htimely
  obtain ⟨hnot, hlength⟩ := hanswer
  have hdelay : response.delay ≤ j.stallMillis := Wait.le_of_timely htimely hlength
  obtain ⟨w, hpass, hw⟩ := (Watch.Calm.renew h.fired h.fireAt j.stallMillis).pass hdelay
  refine ⟨w, _, hw, ?_, ?_⟩
  · rw [Watch.now_of_pass hpass, Watch.renew_now, hlength]
    rfl
  · unfold fetch
    dsimp only
    rw [hpass, h.cancels]
    dsimp only
    rw [if_neg Bool.false_ne_true]
    unfold Response.answerWait
    cases ha : response.answer with
    | body => rfl
    | fail e => rfl
    | hang => exact absurd ha hnot

theorem run_of_refused {t : Transfer} {e : Ending}
    (hdir : FilePath.parent? j.destination = some dir) (hnot : s.watch.fired = false)
    (hfetch : fetch j response s = (t, some e)) :
    run j response s = (t, e) := by
  rw [run_eq, opening_of_refused hdir hnot hfetch]

theorem run_of_unstaged {t : Transfer} {e : FileError}
    (hdir : FilePath.parent? j.destination = some dir) (hnot : s.watch.fired = false)
    (hfetch : fetch j response s = (t, none))
    (hmade : Staged.create t.tree j.workplace dir = .error e) :
    run j response s = (t, .failed (.file "create temporary file in" dir e)) := by
  rw [run_eq, opening_of_answered hdir hnot hfetch]
  unfold staging
  rw [hmade]

theorem Uncancelled.endsAs (h : Uncancelled response s)
    (hdir : FilePath.parent? j.destination = some dir)
    (hmade : ∃ made, Staged.create s.tree j.workplace dir = .ok made)
    (hgood : response.answerWait.IsGood j.stallMillis) :
    EndsAs j (run j response s) (Wait.passage j.stallMillis s.watch.now response.waits) := by
  obtain ⟨⟨t, st⟩, hmade⟩ := hmade
  obtain ⟨w, left, hw, hnow, hfetch⟩ := h.fetch_of_timely hgood.timely
  rw [hgood.error] at hfetch
  have hcalm : Reception.Calm
      { transfer := { s with requests := s.requests ++ [j.url], watch := w, tree := t },
        staged := st, expected := response.length, tracker := .start response.length,
        closing := response.closing } left :=
    ⟨hw, h.onEvent⟩
  obtain ⟨r, hgo, hr⟩ := hcalm.await j
  have hopen : opening j response s = .go r := by
    rw [opening_of_answered hdir h.fired hfetch]
    unfold staging
    rw [hmade]
    exact hgo
  obtain ⟨-, w', rfl, hr'⟩ := Reception.await_go hgo
  have hnow' : r.transfer.watch.now = s.watch.now + response.answerWait.length.getD 0 + 0 := by
    rw [hr', Reception.setWatch_watch, Watch.renew_now, hnow, Nat.add_zero]
  rw [Response.waits, Wait.passage_of_good hgood, run_eq, hopen]
  exact hr.endsAs (Nat.add_zero _) hnow' h.steps

/-- A download comes to a wait: those before it are good, and the directory of the destination and
a staged file in it are there as soon as they are needed. -/
structure Reaches (j : Job) (response : Response) (s : Transfer) (pre : List Wait) (w : Wait) :
    Prop where
  split : ∃ post, response.waits = pre ++ w :: post
  good : ∀ v ∈ pre, v.IsGood j.stallMillis
  files : ∃ dir, FilePath.parent? j.destination = some dir ∧
    (pre ≠ [] → ∃ made, Staged.create s.tree j.workplace dir = .ok made)

variable {pre : List Wait} {w : Wait}

/-- The first wait is for the answer; behind it the waits pass one after another. -/
theorem Uncancelled.cases_of_reaches (h : Uncancelled response s)
    (hw : Reaches j response s pre w) :
    (pre = [] ∧ w = response.answerWait ∧ ∃ dir, FilePath.parent? j.destination = some dir) ∨
      ∃ post, EndsAs j (run j response s) (Wait.passage j.stallMillis
        (s.watch.now + Wait.total pre) (w :: post)) := by
  obtain ⟨⟨post, hsplit⟩, hgood, dir, hdir, hmade⟩ := hw
  cases pre with
  | nil => exact Or.inl ⟨rfl, (List.cons.inj hsplit).1.symm, dir, hdir⟩
  | cons v pre =>
    obtain rfl : response.answerWait = v := (List.cons.inj hsplit).1
    have hends := h.endsAs hdir (hmade (by simp)) (hgood _ (List.mem_cons_self ..))
    rw [hsplit, Wait.passage_append hgood] at hends
    exact Or.inr ⟨post, hends⟩

theorem Uncancelled.run_of_isOver (h : Uncancelled response s) (hw : Reaches j response s pre w)
    (hover : w.isOver j.stallMillis = true) :
    (run j response s).2 = .failed (.transport (.stalled j.stall)) ∧
      (run j response s).1.watch.now = s.watch.now + Wait.total pre + j.stallMillis := by
  rcases h.cases_of_reaches hw with ⟨rfl, rfl, dir, hdir⟩ | ⟨post, hends⟩
  · obtain ⟨t, hfetch, hnow⟩ := h.fetch_of_isOver hover
    rw [run_of_refused hdir h.fired hfetch]
    exact ⟨rfl, hnow⟩
  · rw [Wait.passage_of_isOver hover] at hends
    exact hends

theorem Uncancelled.run_of_error (h : Uncancelled response s) (hw : Reaches j response s pre w)
    (htimely : w.isOver j.stallMillis = false) {e : TransportError} (he : w.error = some e) :
    (run j response s).2 = .failed (.transport e) := by
  rcases h.cases_of_reaches hw with ⟨rfl, rfl, dir, hdir⟩ | ⟨post, hends⟩
  · obtain ⟨w', left, -, -, hfetch⟩ := h.fetch_of_timely htimely
    rw [he] at hfetch
    rw [run_of_refused hdir h.fired hfetch]
  · rw [Wait.passage_of_error htimely he] at hends
    exact hends

theorem Uncancelled.run_of_unwritten (h : Uncancelled response s) (hw : Reaches j response s pre w)
    (htimely : w.isOver j.stallMillis = false) (hnone : w.error = none) {e : FileError}
    (he : w.unwritten = some e) :
    ∃ path, (run j response s).2 = .failed (.file "write to" path e) := by
  rcases h.cases_of_reaches hw with ⟨rfl, rfl, dir, hdir⟩ | ⟨post, hends⟩
  · unfold Response.answerWait at he
    cases ha : response.answer with
    | _ =>
      rw [ha] at he
      cases he
  · rw [Wait.passage_of_unwritten htimely hnone he] at hends
    exact hends

/-- Behind a stall there is a wait that is the first to go wrong. -/
theorem Uncancelled.exists_wrong (h : Uncancelled response s)
    (hstalled : (run j response s).2 = .failed (.transport (.stalled j.stall))) :
    ∃ pre w, Reaches j response s pre w ∧ ¬w.IsGood j.stallMillis := by
  cases hdir : FilePath.parent? j.destination with
  | none =>
    simp [run, hdir] at hstalled
  | some dir =>
    by_cases hgood : response.answerWait.IsGood j.stallMillis
    · obtain ⟨t, left, -, -, hfetch⟩ := h.fetch_of_timely hgood.timely
      cases hmade : Staged.create s.tree j.workplace dir with
      | error e =>
        rw [hgood.error] at hfetch
        rw [run_of_unstaged hdir h.fired hfetch hmade] at hstalled
        simp at hstalled
      | ok made =>
        have hends := h.endsAs hdir ⟨made, hmade⟩ hgood
        have hnot : Wait.passage j.stallMillis s.watch.now response.waits ≠ .through := by
          intro hthrough
          rw [hthrough] at hends
          obtain ⟨r, hfinish⟩ := hends
          rw [hfinish] at hstalled
          exact r.finish_ne_stalled j j.stall hstalled
        obtain ⟨pre, w, post, hsplit, hpre, hbad⟩ := Wait.exists_first_bad hnot
        exact ⟨pre, w, ⟨⟨post, hsplit⟩, hpre, dir, hdir, fun _ => ⟨made, hmade⟩⟩, hbad⟩
    · exact ⟨[], response.answerWait, ⟨⟨_, rfl⟩, by simp, dir, hdir, fun hne => absurd rfl hne⟩,
        hgood⟩

theorem fetch_now_le (j : Job) (response : Response) (s : Transfer) :
    (fetch j response s).1.watch.now ≤ s.watch.now + j.stallMillis := by
  have hbegin : (s.watch.renew j.stallMillis).now ≤ (s.watch.renew j.stallMillis).limit := by
    rw [Watch.renew_now, Watch.renew_limit]
    exact Nat.le_add_right ..
  obtain ⟨hnow, hlimit⟩ := Watch.pass_le_limit hbegin response.delay
  rw [Watch.renew_limit] at hnow hlimit
  unfold fetch
  dsimp only
  cases hpass : (s.watch.renew j.stallMillis).pass response.delay with
  | mk w interruption =>
    rw [hpass] at hnow hlimit
    dsimp only at hnow hlimit
    cases interruption with
    | some i => exact hnow
    | none =>
      have hfire : (if response.cancels then w.fire else w).now = w.now ∧
          (if response.cancels then w.fire else w).limit = w.limit := by
        split
        · exact ⟨rfl, rfl⟩
        · exact ⟨rfl, rfl⟩
      dsimp only
      generalize (if response.cancels then w.fire else w) = w' at hfire ⊢
      obtain ⟨hnow', hlimit'⟩ := hfire
      rw [← hlimit, ← hlimit', ← hnow'] at hnow
      rw [← hlimit, ← hlimit']
      cases response.answer with
      | body => exact hnow
      | fail e => exact hnow
      | hang => exact Watch.hang_le_limit hnow

theorem opening_go_limit {r : Reception} (h : opening j response s = .go r) :
    r.transfer.watch.now ≤ r.transfer.watch.limit ∧
      r.transfer.watch.limit ≤ s.watch.now + 2 * j.stallMillis := by
  have hanswered := fetch_now_le j response s
  unfold opening at h
  split at h
  · cases h
  · split at h
    · cases h
    · split at h
      · cases h
      · rename_i s₁ hfetch
        rw [hfetch] at hanswered
        unfold staging at h
        split at h
        · cases h
        · obtain ⟨-, w, rfl, rfl⟩ := Reception.await_go h
          rw [Reception.setWatch_watch, Watch.renew_now, Watch.renew_limit]
          dsimp only at hanswered ⊢
          omega

theorem opening_stop_now {t : Transfer} {e : Ending} (h : opening j response s = .stop t e) :
    t.watch.now ≤ s.watch.now + j.stallMillis := by
  have hanswered := fetch_now_le j response s
  have hbefore : s.watch.now ≤ s.watch.now + j.stallMillis := Nat.le_add_right ..
  unfold opening at h
  split at h
  · obtain ⟨rfl, -⟩ := Turn.stop.inj h
    exact hbefore
  · split at h
    · obtain ⟨rfl, -⟩ := Turn.stop.inj h
      exact hbefore
    · split at h
      · rename_i s₁ e₁ hfetch
        rw [hfetch] at hanswered
        obtain ⟨rfl, -⟩ := Turn.stop.inj h
        exact hanswered
      · rename_i s₁ hfetch
        rw [hfetch] at hanswered
        unfold staging at h
        split at h
        · obtain ⟨rfl, -⟩ := Turn.stop.inj h
          exact hanswered
        · obtain ⟨-, -, rfl⟩ := Reception.await_stop h
          exact hanswered

/-- A download takes at most one stall time for each item that is taken, and two more. -/
theorem run_now_le (j : Job) (response : Response) (s : Transfer) :
    (run j response s).1.watch.now ≤
      s.watch.now + ((taken j response s).countP Step.isItem + 2) * j.stallMillis := by
  -- one stall time is for the answer, the other for the first item or the end of the body
  rw [run_eq, taken]
  cases hopen : opening j response s with
  | stop t e =>
    have hnow := opening_stop_now hopen
    dsimp only
    rw [List.countP_nil, Nat.zero_add]
    omega
  | go r =>
    obtain ⟨hnow, hlimit⟩ := opening_go_limit hopen
    have hrun : (r.run j response.steps).1.watch.now ≤ r.transfer.watch.limit +
        (r.taken j response.steps).countP Step.isItem * j.stallMillis := Reception.run_now_le hnow
    dsimp only
    rw [Nat.add_mul]
    omega

/-- The stall time bounds each wait and nothing else. A wait that is too long, and before which
nothing goes wrong, ends the download with a stall just when its time is up; a download stalls in no
other way, but it passes an error of the store on that says the same. A chunk that cannot be written
is a failure of the file. -/
theorem stall_bounds_each_wait (h : Uncancelled response s) (j : Job) :
    (∀ pre w, Reaches j response s pre w → w.isOver j.stallMillis = true →
        (run j response s).2 = .failed (.transport (.stalled j.stall)) ∧
          (run j response s).1.watch.now = s.watch.now + Wait.total pre + j.stallMillis) ∧
      (∀ pre w e, Reaches j response s pre w → w.isOver j.stallMillis = false →
        w.error = some e → (run j response s).2 = .failed (.transport e)) ∧
      (∀ pre w e, Reaches j response s pre w → w.isOver j.stallMillis = false →
        w.error = none → w.unwritten = some e →
        ∃ path, (run j response s).2 = .failed (.file "write to" path e)) ∧
      ((run j response s).2 = .failed (.transport (.stalled j.stall)) ↔
        ∃ pre w, Reaches j response s pre w ∧
          (w.isOver j.stallMillis = true ∨ w.error = some (.stalled j.stall))) ∧
      ((∀ w ∈ response.waits, w.isOver j.stallMillis = false ∧
          w.error ≠ some (.stalled j.stall)) →
        (run j response s).2 ≠ .failed (.transport (.stalled j.stall))) ∧
      (run j response s).1.watch.now ≤
        s.watch.now + ((taken j response s).countP Step.isItem + 2) * j.stallMillis := by
  have hiff : (run j response s).2 = .failed (.transport (.stalled j.stall)) ↔
      ∃ pre w, Reaches j response s pre w ∧
        (w.isOver j.stallMillis = true ∨ w.error = some (.stalled j.stall)) := by
    constructor
    · intro hstalled
      obtain ⟨pre, w, hw, hbad⟩ := h.exists_wrong hstalled
      refine ⟨pre, w, hw, ?_⟩
      cases hover : w.isOver j.stallMillis with
      | true => exact Or.inl rfl
      | false =>
        cases he : w.error with
        | none =>
          cases hwritten : w.unwritten with
          | none => exact absurd ⟨hover, he, hwritten⟩ hbad
          | some e =>
            obtain ⟨path, hfailed⟩ := h.run_of_unwritten hw hover he hwritten
            rw [hstalled] at hfailed
            cases hfailed
        | some e =>
          have hfailed := h.run_of_error hw hover he
          rw [hstalled] at hfailed
          obtain rfl : TransportError.stalled j.stall = e :=
            AcquireError.transport.inj (Ending.failed.inj hfailed)
          exact Or.inr rfl
    · rintro ⟨pre, w, hw, hwrong⟩
      cases hover : w.isOver j.stallMillis with
      | true => exact (h.run_of_isOver hw hover).1
      | false =>
        rw [hover] at hwrong
        exact h.run_of_error hw hover (hwrong.resolve_left Bool.false_ne_true)
  refine ⟨?_, ?_, ?_, hiff, ?_, run_now_le j response s⟩
  · intro pre w
    exact h.run_of_isOver
  · intro pre w e hw htimely
    exact h.run_of_error hw htimely
  · intro pre w e hw htimely hnone
    exact h.run_of_unwritten hw htimely hnone
  intro hall hstalled
  obtain ⟨pre, w, hw, hwrong⟩ := hiff.1 hstalled
  obtain ⟨post, hsplit⟩ := hw.split
  obtain ⟨htimely, hother⟩ := hall w (by simp [hsplit])
  rw [htimely] at hwrong
  exact hother (hwrong.resolve_left Bool.false_ne_true)

/-- The answer takes 400 ms, the first chunk just the stall time, in two parts, and the second one
longer. -/
def slowResponse : Response :=
  { delay := 400,
    steps := [.wait 600, .wait 400, .chunk [1], .wait 700, .wait 301, .chunk [2]] }

def slowStart : Transfer := .start ⟨[(["d"], .dir)], []⟩ {} false

/-- Waits are not added up, and their parts are: only the third one is too long. -/
theorem third_wait_stalls :
    Uncancelled slowResponse slowStart ∧
      Reaches plainJob slowResponse slowStart [⟨some 400, none, none⟩, ⟨some 1000, none, none⟩]
        ⟨some 1001, none, none⟩ ∧
      (run plainJob slowResponse slowStart).2 = .failed (.transport (.stalled plainJob.stall)) ∧
      (run plainJob slowResponse slowStart).1.watch.now = 2400 := by
  have hnobody : Uncancelled slowResponse slowStart := ⟨rfl, rfl, rfl, rfl, by decide⟩
  have hmade : ∃ made, Staged.create slowStart.tree plainJob.workplace "d" = .ok made :=
    ⟨(slowStart.tree.add [".tmp0000000000", "d"] (.file 0o755 []),
      ⟨"d/.tmp0000000000", [".tmp0000000000", "d"]⟩),
      Tree.toOption_eq_some_iff.1 (by decide +kernel)⟩
  have hreaches : Reaches plainJob slowResponse slowStart
      [⟨some 400, none, none⟩, ⟨some 1000, none, none⟩] ⟨some 1001, none, none⟩ := by
    refine ⟨⟨[⟨some 0, none, none⟩], by decide⟩, ?_, "d", by decide +kernel, ?_⟩
    · intro v hv
      simp only [List.mem_cons, List.not_mem_nil, or_false] at hv
      rcases hv with rfl | rfl
      · exact ⟨by decide, rfl, rfl⟩
      · exact ⟨by decide, rfl, rfl⟩
    · intro _
      exact hmade
  obtain ⟨hover, -⟩ := stall_bounds_each_wait hnobody plainJob
  obtain ⟨hstalled, hnow⟩ := hover _ _ hreaches (by decide)
  exact ⟨hnobody, hreaches, hstalled, hnow⟩

/-- A store that reports a stall of its own. -/
def stallingStore : Response :=
  { steps := [.chunk [1], .fail (.stalled ⟨1, 0⟩)] }

/-- No wait takes any time, but the store's own error says that one has. And a stall time of half a
millisecond lets a whole one pass, as the clock does not tell the two apart. -/
theorem stall_of_store_passed_on :
    Uncancelled stallingStore slowStart ∧
      (∀ w ∈ stallingStore.waits, w.length = some 0) ∧
      (run plainJob stallingStore slowStart).2 = .failed (.transport (.stalled plainJob.stall)) ∧
      (run { plainJob with stall := ⟨0, 500000⟩ } { steps := [.wait 1, .chunk [1]] }
        slowStart).2 = .completed 1 := by
  refine ⟨⟨rfl, rfl, rfl, rfl, by decide⟩, by decide, by decide +kernel, by decide +kernel⟩

end Download

end ServerLauncher
