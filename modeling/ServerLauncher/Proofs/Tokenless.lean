import ServerLauncher.Proofs.Course

/-!
The same download without a token. As long as a download is not cancelled, the token has no part in
it: what it does, what it reports and how it ends are the same if nobody can cancel.
-/

namespace ServerLauncher

/-- The same clock, with a token that never fires. -/
def Watch.tokenless (w : Watch) : Watch :=
  { w with fired := false, fireAt := none }

def Transfer.tokenless (s : Transfer) : Transfer :=
  { s with watch := s.watch.tokenless, onEvent := none }

/-- The same response, in the course of which nobody cancels. -/
def Response.tokenless (response : Response) : Response :=
  { response with cancels := false, steps := response.steps.filter (· ≠ .cancel) }

namespace Watch

variable {w w' : Watch}

theorem tokenless_firesBy (w : Watch) (t : Nat) : w.tokenless.firesBy t = false := rfl

theorem pass_tokenless {millis : Nat} {i : Option Interruption} (h : w.pass millis = (w', i))
    (hne : i ≠ some .cancelled) : w.tokenless.pass millis = (w'.tokenless, i) := by
  unfold pass at h ⊢
  split at h
  · rename_i h0
    obtain ⟨rfl, rfl⟩ := Prod.mk.inj h
    rw [if_pos h0]
  · rename_i h0
    rw [if_neg h0]
    dsimp only at h ⊢
    split at h
    · obtain ⟨-, rfl⟩ := Prod.mk.inj h
      exact absurd rfl hne
    · rw [tokenless_firesBy, if_neg Bool.false_ne_true]
      split at h
      · rename_i hready
        obtain ⟨rfl, rfl⟩ := Prod.mk.inj h
        exact if_pos hready
      · rename_i hready
        obtain ⟨rfl, rfl⟩ := Prod.mk.inj h
        exact if_neg hready

theorem hang_tokenless {i : Interruption} (h : w.hang = (w', i)) (hne : i ≠ .cancelled) :
    w.tokenless.hang = (w'.tokenless, i) := by
  unfold hang at h ⊢
  split at h
  · obtain ⟨-, rfl⟩ := Prod.mk.inj h
    exact absurd rfl hne
  · obtain ⟨rfl, rfl⟩ := Prod.mk.inj h
    rw [tokenless_firesBy, if_neg Bool.false_ne_true]
    rfl

end Watch

theorem Transfer.report_tokenless (s : Transfer) (e : Progress.Event) :
    (s.report e).tokenless = s.tokenless.report e := by
  unfold report tokenless
  split <;> rfl

namespace Download

def Reception.tokenless (r : Reception) : Reception :=
  { r with transfer := r.transfer.tokenless }

def Turn.tokenless : Turn → Turn
  | .go r => .go r.tokenless
  | .stop s e => .stop s.tokenless e

namespace Reception

variable {j : Job} {r r' : Reception} {step : Step} {s : Transfer} {e : Ending}

theorem report_getD_tokenless (s : Transfer) (event : Option Progress.Event) :
    ((event.map s.report).getD s).tokenless =
      (event.map s.tokenless.report).getD s.tokenless := by
  cases event with
  | none => rfl
  | some e => exact s.report_tokenless e

theorem keep_tokenless (r : Reception) (bytes : Bytes) :
    (r.keep bytes).tokenless = r.tokenless.keep bytes := by
  have h := report_getD_tokenless
    { r.transfer with tree := r.staged.write r.transfer.tree bytes }
    (r.tracker.advance r.transfer.eventTime (r.received + bytes.length)).2
  exact congrArg (fun t => { r with
    transfer := t,
    tracker := (r.tracker.advance r.transfer.eventTime (r.received + bytes.length)).1,
    received := r.received + bytes.length }) h

theorem await_tokenless (h : r.await j = .go r') : r.tokenless.await j = .go r'.tokenless := by
  obtain ⟨-, w, rfl, rfl⟩ := await_go h
  rfl

theorem take_go_tokenless (h : r.take j step = .go r') (hs : step ≠ .cancel) :
    r.tokenless.take j step = .go r'.tokenless := by
  cases step with
  | chunk bytes =>
    rw [take] at h ⊢
    rw [← keep_tokenless]
    exact await_tokenless h
  | unwritten kept e => cases h
  | fail e => cases h
  | wait millis =>
    simp only [take] at h
    split at h
    · rename_i w hpass
      obtain rfl := Turn.go.inj h
      have hpass' : r.tokenless.transfer.watch.pass millis = (w.tokenless, none) :=
        Watch.pass_tokenless hpass (by simp)
      simp only [take, hpass']
      rfl
    · cases h
  | hang => simp [take, stop] at h
  | cancel => exact absurd rfl hs
  | change c =>
    obtain rfl := Turn.go.inj h
    rfl

theorem take_stop_tokenless (h : r.take j step = .stop s e) (hne : e ≠ .cancelled) :
    r.tokenless.take j step = .stop s.tokenless e := by
  cases step with
  | chunk bytes =>
    rw [take] at h
    exact absurd (await_stop h).2.1 hne
  | unwritten kept error =>
    obtain ⟨rfl, rfl⟩ := Turn.stop.inj h
    rfl
  | fail error =>
    obtain ⟨rfl, rfl⟩ := Turn.stop.inj h
    rfl
  | wait millis =>
    simp only [take] at h
    split at h
    · cases h
    · rename_i w i hpass
      obtain ⟨rfl, rfl⟩ := Turn.stop.inj h
      have hi : i ≠ .cancelled := by
        rintro rfl
        exact hne rfl
      have hpass' : r.tokenless.transfer.watch.pass millis = (w.tokenless, some i) :=
        Watch.pass_tokenless hpass (by simpa using hi)
      simp only [take, hpass']
      rfl
  | hang =>
    simp only [take] at h
    generalize hwait : r.transfer.watch.hang = wi at h
    obtain ⟨w, i⟩ := wi
    obtain ⟨rfl, rfl⟩ := Turn.stop.inj h
    have hi : i ≠ .cancelled := by
      rintro rfl
      exact hne rfl
    have hwait' : r.tokenless.transfer.watch.hang = (w.tokenless, i) :=
      Watch.hang_tokenless hwait hi
    simp only [take, hwait']
    rfl
  | cancel => cases h
  | change c => cases h

theorem told_tokenless (r : Reception) : r.told.tokenless = r.tokenless.told := by
  have h := report_getD_tokenless r.transfer (r.tracker.finish r.received).2
  exact congrArg (fun t => { r with transfer := t, tracker := (r.tracker.finish r.received).1 }) h

theorem finish_tokenless (h : r.finish j = (s, e)) : r.tokenless.finish j = (s.tokenless, e) := by
  have hfault : r.tokenless.fault? j = r.fault? j := rfl
  have hcommit : r.tokenless.staged.commit r.told.tokenless.transfer.tree j.workplace
    j.destination = r.staged.commit r.told.transfer.tree j.workplace j.destination := rfl
  rw [finish_eq] at h ⊢
  rw [hfault, ← told_tokenless, hcommit]
  split at h
  · obtain ⟨rfl, rfl⟩ := Prod.mk.inj h
    rfl
  · split at h
    · obtain ⟨rfl, rfl⟩ := Prod.mk.inj h
      rfl
    · obtain ⟨rfl, rfl⟩ := Prod.mk.inj h
      rfl

theorem run_tokenless {ss : List Step} (h : r.run j ss = (s, e)) (hne : e ≠ .cancelled) :
    r.tokenless.run j (ss.filter (· ≠ .cancel)) = (s.tokenless, e) := by
  induction ss generalizing r with
  | nil => exact finish_tokenless h
  | cons step rest ih =>
    rw [run] at h
    split at h
    · rename_i r₁ ht
      have ih := ih h
      by_cases hs : step = .cancel
      · subst hs
        obtain rfl := Turn.go.inj ht
        rw [List.filter_cons_of_neg (by simp)]
        exact ih
      · rw [List.filter_cons_of_pos (by simpa using hs), run, take_go_tokenless ht hs]
        exact ih
    · rename_i s₁ e₁ ht
      obtain ⟨rfl, rfl⟩ := Prod.mk.inj h
      have hs : step ≠ .cancel := by
        rintro rfl
        cases ht
      rw [List.filter_cons_of_pos (by simpa using hs), run, take_stop_tokenless ht hne]

end Reception

variable {j : Job} {response : Response} {s s' : Transfer} {e : Ending}

theorem fetch_tokenless {ending : Option Ending} (h : fetch j response s = (s', ending))
    (hne : ending ≠ some .cancelled) :
    fetch j response.tokenless s.tokenless = (s'.tokenless, ending) := by
  have hrenew : s.tokenless.watch.renew j.stallMillis =
    (s.watch.renew j.stallMillis).tokenless := rfl
  have hdelay : response.tokenless.delay = response.delay := rfl
  have hanswer : response.tokenless.answer = response.answer := rfl
  have hcancels : response.tokenless.cancels = false := rfl
  unfold fetch at h ⊢
  rw [hrenew, hdelay, hanswer, hcancels]
  generalize s.watch.renew j.stallMillis = w at h ⊢
  dsimp only at h ⊢
  split at h
  · rename_i w₁ i hpass
    obtain ⟨rfl, rfl⟩ := Prod.mk.inj h
    have hi : i ≠ .cancelled := by
      rintro rfl
      exact hne rfl
    rw [Watch.pass_tokenless hpass (by simpa using hi)]
    rfl
  · rename_i w₁ hpass
    rw [Watch.pass_tokenless hpass (by simp)]
    dsimp only
    rw [if_neg Bool.false_ne_true]
    have hfire : (if response.cancels then w₁.fire else w₁).tokenless = w₁.tokenless := by
      split <;> rfl
    rw [← hfire]
    generalize (if response.cancels then w₁.fire else w₁) = w₂ at h ⊢
    cases ha : response.answer with
    | body =>
      rw [ha] at h
      obtain ⟨rfl, rfl⟩ := Prod.mk.inj h
      rfl
    | fail error =>
      rw [ha] at h
      obtain ⟨rfl, rfl⟩ := Prod.mk.inj h
      rfl
    | hang =>
      rw [ha] at h
      dsimp only at h ⊢
      generalize hwait : w₂.hang = wi at h
      obtain ⟨w₃, i⟩ := wi
      obtain ⟨rfl, rfl⟩ := Prod.mk.inj h
      have hi : i ≠ .cancelled := by
        rintro rfl
        exact hne rfl
      rw [Watch.hang_tokenless hwait hi]
      rfl

theorem staging_tokenless {dir : String} {turn : Turn} (h : staging j response dir s = turn)
    (hne : ∀ s', turn ≠ .stop s' .cancelled) :
    staging j response.tokenless dir s.tokenless = turn.tokenless := by
  have hcreate : Staged.create s.tokenless.tree j.workplace dir =
    Staged.create s.tree j.workplace dir := rfl
  unfold staging at h ⊢
  rw [hcreate]
  generalize Staged.create s.tree j.workplace dir = made at h ⊢
  cases made with
  | error e =>
    subst h
    rfl
  | ok fresh =>
    dsimp only at h ⊢
    cases turn with
    | go r =>
      have hawait := Reception.await_tokenless h
      exact hawait
    | stop s' e =>
      obtain ⟨-, rfl, -⟩ := Reception.await_stop h
      exact absurd rfl (hne s')

theorem opening_tokenless {turn : Turn} (h : opening j response s = turn)
    (hne : ∀ s', turn ≠ .stop s' .cancelled) :
    opening j response.tokenless s.tokenless = turn.tokenless := by
  unfold opening at h ⊢
  split at h
  · subst h
    rfl
  · split at h
    · exact absurd h.symm (hne s)
    · have hfired : s.tokenless.watch.fired = false := rfl
      rw [hfired, if_neg Bool.false_ne_true]
      split at h
      · rename_i s₁ e hfetch
        subst h
        have he : some e ≠ some .cancelled := by
          rintro he
          exact hne s₁ (by rw [Option.some.inj he])
        rw [fetch_tokenless hfetch he]
        rfl
      · rename_i s₁ hfetch
        rw [fetch_tokenless hfetch (by simp)]
        exact staging_tokenless h hne

/-- A download that is not cancelled does what it does without a token. -/
theorem run_eq_tokenless (h : run j response s = (s', e)) (hne : e ≠ .cancelled) :
    run j response.tokenless s.tokenless = (s'.tokenless, e) := by
  rw [run_eq] at h ⊢
  split at h
  · rename_i r hopen
    rw [opening_tokenless hopen (by simp)]
    exact Reception.run_tokenless h hne
  · rename_i s₁ e₁ hopen
    obtain ⟨rfl, rfl⟩ := Prod.mk.inj h
    rw [opening_tokenless hopen (by simpa using hne)]
    rfl

end Download

end ServerLauncher
