import ServerLauncher.Proofs.NoTrace
import ServerLauncher.Proofs.Tokenless

/-!
When a cancellation takes effect. A token that fires while something is waited for ends the download
at once. One that fires inside of what is waited for lets one more item pass: an error or the end of
the body counts as it does without the token, and after the answer or a chunk the next wait ends the
download. No request is made any more, and the destination stays as it is.
-/

namespace ServerLauncher

/-- The token fires while something is waited for that is ready after `millis`, at the latest when
the wait ends. -/
def Watch.FiresIn (w : Watch) (millis : Nat) : Prop :=
  0 < millis ∧ w.firesBy (min (w.now + millis) w.limit) = true

/-- A step that is handed to the one who asks. -/
def Step.isItem : Step → Bool
  | .chunk _ => true
  | .unwritten .. => true
  | .fail _ => true
  | _ => false

namespace Watch

variable {w : Watch}

theorem firesBy_of_fired (h : w.fired = true) (t : Nat) : w.firesBy t = true := by
  simp [firesBy, h]

theorem FiresIn.pass {millis : Nat} (h : w.FiresIn millis) :
    ∃ w', w.pass millis = (w', some .cancelled) := by
  obtain ⟨hpos, hfires⟩ := h
  have h0 : millis ≠ 0 := by omega
  exact ⟨_, by rw [Watch.pass, if_neg h0, if_pos hfires]⟩

theorem hang_of_firesBy (h : w.firesBy w.limit = true) :
    ∃ w', w.hang = (w', .cancelled) :=
  ⟨_, if_pos h⟩

theorem fired_of_pass {w' : Watch} {millis : Nat} (h : w.pass millis = (w', none)) :
    w'.fired = w.fired ∧ (w.fired = true → millis = 0) := by
  unfold Watch.pass at h
  split at h
  · rename_i h0
    obtain ⟨rfl, -⟩ := Prod.mk.inj h
    exact ⟨rfl, fun _ => h0⟩
  · dsimp only at h
    split at h
    · cases (Prod.mk.inj h).2
    · rename_i hfires
      have hnot : w.fired = true → millis = 0 := fun hf =>
        absurd (firesBy_of_fired hf _) hfires
      split at h
      · obtain ⟨rfl, -⟩ := Prod.mk.inj h
        exact ⟨rfl, hnot⟩
      · cases (Prod.mk.inj h).2

end Watch

namespace Download

namespace Reception

variable {j : Job} {r r' : Reception} {step : Step} {ss : List Step}

/-- The token fires while a step is waited for. -/
def FiresDuring (r : Reception) : Step → Prop
  | .wait millis => r.transfer.watch.FiresIn millis
  | .hang => r.transfer.watch.firesBy r.transfer.watch.limit = true
  | _ => False

theorem FiresDuring.take (h : r.FiresDuring step) :
    ∃ t, r.take j step = .stop t .cancelled ∧ t.events = r.transfer.events := by
  cases step with
  | wait millis =>
    obtain ⟨w, hpass⟩ := Watch.FiresIn.pass h
    refine ⟨((r.setWatch w).abandon j .cancelled).1, ?_, rfl⟩
    rw [Reception.take, hpass]
    rfl
  | hang =>
    obtain ⟨w, hwait⟩ := Watch.hang_of_firesBy h
    refine ⟨((r.setWatch w).abandon j .cancelled).1, ?_, rfl⟩
    rw [Reception.take, hwait]
    rfl
  | _ => exact h.elim

theorem keep_fired (h : r.transfer.watch.fired = true) (bytes : Bytes) :
    (r.keep bytes).transfer.watch.fired = true := by
  have hreport : ∀ (s : Transfer) (event : Option Progress.Event), s.watch.fired = true →
      ((event.map s.report).getD s).watch.fired = true := by
    intro s event hs
    cases event with
    | none => exact hs
    | some e =>
      change (if s.onEvent = some s.events.length then s.watch.fire else s.watch).fired = true
      split
      · rfl
      · exact hs
  exact hreport _ _ h

theorem take_chunk_of_fired {bytes : Bytes} (h : (r.keep bytes).transfer.watch.fired = true) :
    ∃ t, r.take j (.chunk bytes) = .stop t .cancelled ∧
      t.events = (r.keep bytes).transfer.events := by
  refine ⟨{ (r.keep bytes).transfer with
    tree := (r.keep bytes).staged.discard (r.keep bytes).transfer.tree j.workplace }, ?_, rfl⟩
  rw [take, await, if_pos h]
  rfl

/-- While the body goes on the token is fired by a step only that cancels. -/
theorem fired_of_take_go (h : r.take j step = .go r') (hf : r'.transfer.watch.fired = true) :
    step = .cancel ∨ r.transfer.watch.fired = true ∧ step.isItem = false := by
  cases step with
  | chunk bytes =>
    rw [take] at h
    obtain ⟨hnot, w, hw, rfl⟩ := await_go h
    have hsame : w.fired = (r.keep bytes).transfer.watch.fired := by rw [hw, Watch.renew_fired]
    rw [← hsame] at hnot
    exact absurd hf (by simp [setWatch, hnot])
  | unwritten kept e => cases h
  | fail e => cases h
  | wait millis =>
    simp only [take] at h
    split at h
    · rename_i w hpass
      obtain rfl := Turn.go.inj h
      exact Or.inr ⟨(Watch.fired_of_pass hpass).1 ▸ hf, rfl⟩
    · cases h
  | hang => simp [take, stop] at h
  | cancel => exact Or.inl rfl
  | change c =>
    obtain rfl := Turn.go.inj h
    exact Or.inr ⟨hf, rfl⟩

theorem Course.fired_cases (h : Course j r ss r') (hf : r'.transfer.watch.fired = true) :
    (r.transfer.watch.fired = true ∧ ∀ step ∈ ss, step.isItem = false) ∨
      ∃ before quiet, ss = before ++ .cancel :: quiet ∧
        ∀ step ∈ quiet, step.isItem = false := by
  induction h with
  | nil r => exact Or.inl ⟨hf, by simp⟩
  | @cons r r₁ r' step rest hgo _ ih =>
    rcases ih hf with ⟨hf₁, hrest⟩ | ⟨before, quiet, rfl, hquiet⟩
    · rcases fired_of_take_go hgo hf₁ with rfl | ⟨hfr, hitem⟩
      · exact Or.inr ⟨[], rest, rfl, hrest⟩
      · exact Or.inl ⟨hfr, by simpa using ⟨hitem, hrest⟩⟩
    · exact Or.inr ⟨step :: before, quiet, rfl, hquiet⟩

theorem take_go_of_fired (h : r.take j step = .go r') (hf : r.transfer.watch.fired = true) :
    step.isItem = false ∧ r'.transfer.watch.fired = true := by
  cases step with
  | chunk bytes =>
    obtain ⟨t, hstop, -⟩ := take_chunk_of_fired (j := j) (keep_fired hf bytes)
    rw [hstop] at h
    cases h
  | unwritten kept e => cases h
  | fail e => cases h
  | wait millis =>
    simp only [take] at h
    split at h
    · rename_i w hpass
      obtain rfl := Turn.go.inj h
      exact ⟨rfl, (Watch.fired_of_pass hpass).1.trans hf⟩
    · cases h
  | hang => simp [take, stop] at h
  | cancel =>
    obtain rfl := Turn.go.inj h
    exact ⟨rfl, rfl⟩
  | change c =>
    obtain rfl := Turn.go.inj h
    exact ⟨rfl, hf⟩

theorem countP_taken_le (h : r.transfer.watch.fired = true) (ss : List Step) :
    (r.taken j ss).countP Step.isItem ≤ 1 := by
  induction ss generalizing r with
  | nil => simp [taken]
  | cons step rest ih =>
    rw [taken]
    split
    · rename_i r' hgo
      obtain ⟨hitem, hf⟩ := take_go_of_fired hgo h
      rw [List.countP_cons_of_neg (by simp [hitem])]
      exact ih hf
    · rw [List.countP_singleton]
      split <;> omega

end Reception

variable {j : Job} {response : Response} {s : Transfer} {dir : String} {pre post : List Step}
  {step : Step} {r : Reception}

theorem run_of_fired (hdir : FilePath.parent? j.destination = some dir)
    (h : s.watch.fired = true) : run j response s = (s, .cancelled) := by
  unfold run
  rw [hdir, h]
  rfl

/-- The token fires while the answer is waited for. -/
def FiresBeforeAnswer (j : Job) (response : Response) (s : Transfer) : Prop :=
  (s.watch.renew j.stallMillis).FiresIn response.delay ∨
    response.answer = .hang ∧
      ∃ w, (s.watch.renew j.stallMillis).pass response.delay = (w, none) ∧
        (response.cancels = true ∨ w.firesBy w.limit = true)

theorem FiresBeforeAnswer.fetch_eq (h : FiresBeforeAnswer j response s) :
    ∃ w, fetch j response s =
      ({ s with requests := s.requests ++ [j.url], watch := w }, some .cancelled) := by
  unfold fetch
  rcases h with h | ⟨hanswer, w, hpass, hfires⟩
  · obtain ⟨w, hpass⟩ := h.pass
    refine ⟨w, ?_⟩
    dsimp only
    rw [hpass]
    rfl
  · have hfires' : (if response.cancels then w.fire else w).firesBy
        (if response.cancels then w.fire else w).limit = true := by
      rcases hfires with hc | hf
      · rw [if_pos hc]
        exact Watch.firesBy_of_fired rfl _
      · split
        · exact Watch.firesBy_of_fired rfl _
        · exact hf
    obtain ⟨w', hwait⟩ := Watch.hang_of_firesBy hfires'
    refine ⟨w', ?_⟩
    dsimp only
    rw [hpass, hanswer]
    dsimp only
    rw [hwait]
    rfl

/-- Nothing of the response counts but what is waited for when the token fires. -/
theorem FiresBeforeAnswer.run_eq (h : FiresBeforeAnswer j response s)
    (hdir : FilePath.parent? j.destination = some dir) (hnot : s.watch.fired = false) :
    ∃ w, ∀ length steps, run j { response with length, steps } s =
      ({ s with requests := s.requests ++ [j.url], watch := w }, .cancelled) := by
  obtain ⟨w, hfetch⟩ := h.fetch_eq
  refine ⟨w, ?_⟩
  intro length steps
  have hfetch' : fetch j { response with length, steps } s = fetch j response s := rfl
  unfold run
  rw [hdir, hnot, hfetch', hfetch]
  rfl

/-- A token that fires inside of the request leaves no time for the body. -/
theorem opening_of_cancels {w : Watch} (hdir : FilePath.parent? j.destination = some dir)
    (hnot : s.watch.fired = false) (hcancels : response.cancels = true)
    (hpass : (s.watch.renew j.stallMillis).pass response.delay = (w, none)) :
    (∀ e, response.answer = .fail e →
        ∃ t, opening j response s = .stop t (.failed (.transport e))) ∧
      (response.answer = .body →
        ((∃ made, Staged.create s.tree j.workplace dir = .ok made) →
            ∃ t, opening j response s = .stop t .cancelled) ∧
          ∀ e, Staged.create s.tree j.workplace dir = .error e →
            ∃ t, opening j response s =
              .stop t (.failed (.file "create temporary file in" dir e))) := by
  constructor
  · intro e hanswer
    have hfetch : fetch j response s =
        ({ s with requests := s.requests ++ [j.url], watch := w.fire },
          some (.failed (.transport e))) := by
      unfold fetch
      dsimp only
      rw [hpass, hcancels, hanswer]
      rfl
    exact ⟨_, opening_of_refused hdir hnot hfetch⟩
  · intro hanswer
    have hfetch : fetch j response s =
        ({ s with requests := s.requests ++ [j.url], watch := w.fire }, none) := by
      unfold fetch
      dsimp only
      rw [hpass, hcancels, hanswer]
      rfl
    rw [opening_of_answered hdir hnot hfetch]
    unfold staging
    constructor
    · rintro ⟨⟨t, st⟩, hmade⟩
      rw [hmade]
      exact ⟨_, if_pos rfl⟩
    · intro e hmade
      rw [hmade]
      exact ⟨_, rfl⟩

/-- The download is cancelled at a step, and nothing behind the step plays a part. -/
structure CancelledAt (j : Job) (response : Response) (s : Transfer) (pre : List Step)
    (step : Step) (events : List Progress.Event) : Prop where
  ending : (run j response s).2 = .cancelled
  events : (run j response s).1.events = events
  taken : taken j response s = pre ++ [step]
  rest : ∀ post, run j { response with steps := pre ++ step :: post } s = run j response s

theorem Midway.cancelledAt (h : Midway j response s pre r)
    (hsteps : response.steps = pre ++ step :: post) {t : Transfer}
    (hstop : r.take j step = .stop t .cancelled) :
    CancelledAt j response s pre step t.events := by
  have hrun : ∀ rest, run j { response with steps := pre ++ step :: rest } s = (t, .cancelled) := by
    intro rest
    rw [(h.with_steps _).run_eq rfl, Reception.run, hstop]
  have hrun' : run j response s = (t, .cancelled) := by
    rw [h.run_eq hsteps, Reception.run, hstop]
  refine ⟨by rw [hrun'], by rw [hrun'], ?_, ?_⟩
  · rw [h.taken_eq hsteps, Reception.taken, hstop]
  · intro rest
    rw [hrun rest, hrun']

theorem Midway.fired_cases (h : Midway j response s pre r) (hf : r.transfer.watch.fired = true) :
    ∃ before quiet, pre = before ++ .cancel :: quiet ∧ ∀ step ∈ quiet, step.isItem = false := by
  obtain ⟨r₀, hopen, hcourse⟩ := h
  obtain ⟨-, -, -, -, -, -, -, -, hnot, -⟩ := opening_go hopen
  rcases hcourse.fired_cases hf with ⟨hf₀, -⟩ | hcases
  · rw [hnot] at hf₀
    cases hf₀
  · exact hcases

/-- The end of a body is no cancellation, whether the token has fired or not. -/
theorem Midway.ne_cancelled (h : Midway j response s pre r) (hsteps : response.steps = pre) :
    (run j response s).2 ≠ .cancelled := by
  rw [h.run_eq (hsteps.trans (List.append_nil pre).symm), Reception.run]
  rcases r.finish_cases j with ⟨n, s', -, hf, -⟩ | ⟨-, ⟨s', hf, -⟩ | ⟨s', e, hf, -⟩⟩
  · simp [hf]
  · simp [hf]
  · simp [hf]

/-- After the token has fired at most one more item is used and nothing is requested. An error, a
chunk that cannot be written and the end of the body count as without the token; all else ends in a
cancellation, which leaves the destination alone. -/
theorem cancelled_within_one_item (hdir : FilePath.parent? j.destination = some dir) :
    (s.watch.fired = true → run j response s = (s, .cancelled)) ∧
      (s.watch.fired = false → FiresBeforeAnswer j response s →
        ∃ w, ∀ length steps, run j { response with length, steps } s =
          ({ s with requests := s.requests ++ [j.url], watch := w }, .cancelled)) ∧
      (∀ w, s.watch.fired = false → response.cancels = true →
        (s.watch.renew j.stallMillis).pass response.delay = (w, none) →
        (∀ e, response.answer = .fail e → (run j response s).2 = .failed (.transport e)) ∧
          (response.answer = .body → taken j response s = [] ∧
            ((∃ made, Staged.create s.tree j.workplace dir = .ok made) →
              (run j response s).2 = .cancelled) ∧
            ∀ e, Staged.create s.tree j.workplace dir = .error e →
              (run j response s).2 = .failed (.file "create temporary file in" dir e))) ∧
      (∀ pre post r, Midway j response s pre r → response.steps = pre ++ post →
        (run j response s).1.requests = s.requests ++ [j.url] ∧
          (∀ step rest, post = step :: rest → r.FiresDuring step →
            CancelledAt j response s pre step r.transfer.events) ∧
          (∀ bytes rest, post = .chunk bytes :: rest →
            r.transfer.watch.fired = true ∨ (r.keep bytes).transfer.watch.fired = true →
            CancelledAt j response s pre (.chunk bytes) (r.keep bytes).transfer.events) ∧
          (∀ e rest, post = .fail e :: rest → (run j response s).2 = .failed (.transport e)) ∧
          (∀ kept e rest, post = .unwritten kept e :: rest →
            (run j response s).2 = .failed (r.fileFault j "write to" e)) ∧
          (post = [] → (run j response s).2 ≠ .cancelled) ∧
          (r.transfer.watch.fired = true →
            (∃ before quiet, pre = before ++ .cancel :: quiet ∧
                ∀ step ∈ quiet, step.isItem = false) ∧
              ∃ later, taken j response s = pre ++ later ∧ later.countP Step.isItem ≤ 1)) ∧
      ((run j response s).2 ≠ .cancelled → run j response.tokenless s.tokenless =
        ((run j response s).1.tokenless, (run j response s).2)) ∧
      ((run j response s).2 = .cancelled → OwnName j response s.tree →
        (run j response s).1.tree.entryAt j.workplace.key j.destination =
          (treeWithout j s (taken j response s)).entryAt j.workplace.key j.destination) := by
  have hrun : run j response s = ((run j response s).1, (run j response s).2) := rfl
  refine ⟨run_of_fired hdir, ?_, ?_, ?_, run_eq_tokenless hrun, ?_⟩
  · intro hnot hfires
    exact hfires.run_eq hdir hnot
  · intro w hnot hcancels hpass
    obtain ⟨hfail, hbody⟩ := opening_of_cancels hdir hnot hcancels hpass
    have hstop : ∀ {e}, (∃ t, opening j response s = .stop t e) →
        (run j response s).2 = e ∧ taken j response s = [] := by
      rintro e ⟨t, hopen⟩
      exact ⟨by rw [run_eq, hopen], by rw [taken, hopen]⟩
    constructor
    · intro e he
      exact (hstop (hfail e he)).1
    intro hb
    obtain ⟨hmade, hrefused⟩ := hbody hb
    refine ⟨?_, ?_, ?_⟩
    · cases hc : Staged.create s.tree j.workplace dir with
      | ok made => exact (hstop (hmade ⟨made, hc⟩)).2
      | error e => exact (hstop (hrefused e hc)).2
    · intro h
      exact (hstop (hmade h)).1
    · intro e he
      exact (hstop (hrefused e he)).1
  · intro pre post r hmid hsteps
    refine ⟨?_, ?_, ?_, ?_, ?_, ?_, ?_⟩
    · rw [hmid.run_eq hsteps, Reception.run_requests, hmid.spec.1]
    · rintro step rest rfl hfires
      obtain ⟨t, hstop, hevents⟩ := hfires.take (j := j)
      exact hevents ▸ hmid.cancelledAt hsteps hstop
    · rintro bytes rest rfl hfired
      have hf : (r.keep bytes).transfer.watch.fired = true :=
        hfired.elim (fun h => Reception.keep_fired h bytes) id
      obtain ⟨t, hstop, hevents⟩ := Reception.take_chunk_of_fired (j := j) hf
      exact hevents ▸ hmid.cancelledAt hsteps hstop
    · rintro e rest rfl
      rw [hmid.run_eq hsteps]
      rfl
    · rintro kept e rest rfl
      rw [hmid.run_eq hsteps]
      rfl
    · rintro rfl
      exact hmid.ne_cancelled (hsteps.trans (List.append_nil pre))
    · intro hf
      have htaken := hmid.taken_eq hsteps
      exact ⟨hmid.fired_cases hf, r.taken j post, htaken, Reception.countP_taken_le hf post⟩
  · intro hcancelled hown
    have hne : ∀ n, (run j response s).2 ≠ .completed n := by simp [hcancelled]
    have hn := Staged.isName_freshName s.tree
    rcases tree_cases_of_not_completed hown hrun hne with
      ⟨-, htree⟩ | ⟨-, r, d, content, -, -, -, hbeside⟩
    · rw [htree]
    · exact (hbeside.entryAt_eq hn _ hown.destination).symm

def plainJob : Job := ⟨⟨[], "/"⟩, "u", "d/x", ⟨1, 0⟩⟩

/-- The token fires at the moment at which the second chunk is ready. -/
def tiedResponse : Response := { steps := [.chunk [1], .wait 500, .chunk [2]] }

def tiedStart : Transfer := .start ⟨[(["d"], .dir)], []⟩ { atMillis := some 500 } false

def tiedReception : Reception :=
  { transfer := { tiedStart with
      tree := tiedStart.tree.add [".tmp0000000000", "d"] (.file 0o755 []),
      watch := ⟨0, 1000, false, some 500⟩, requests := ["u"] },
    staged := ⟨"d/.tmp0000000000", [".tmp0000000000", "d"]⟩, expected := none,
    tracker := .start none }

/-- The token goes before a chunk that is ready at the same moment. -/
theorem cancelled_at_tie :
    FilePath.parent? plainJob.destination = some "d" ∧
      CancelledAt plainJob tiedResponse tiedStart [.chunk [1]] (.wait 500) [⟨"0 KiB", 0⟩] := by
  have hdir : FilePath.parent? plainJob.destination = some "d" := by decide +kernel
  have hopen : opening plainJob tiedResponse tiedStart = .go tiedReception := by decide +kernel
  have hgo : tiedReception.take plainJob (.chunk [1]) = .go (tiedReception.keep [1]) := by
    decide +kernel
  have hmid : Midway plainJob tiedResponse tiedStart [.chunk [1]] (tiedReception.keep [1]) :=
    ⟨_, hopen, .cons hgo (.nil _)⟩
  have hfires : (tiedReception.keep [1]).FiresDuring (.wait 500) :=
    ⟨by decide, by decide +kernel⟩
  obtain ⟨-, -, -, hbody, -⟩ := @cancelled_within_one_item plainJob tiedResponse tiedStart "d" hdir
  obtain ⟨-, hwait, -⟩ := hbody _ _ _ hmid rfl
  exact ⟨hdir, hwait _ _ rfl hfires⟩

end Download

end ServerLauncher
