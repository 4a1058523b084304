import ServerLauncher.Proofs.Completion

/-!
The waits of a download: one for the answer, one for each item, and one for the end of the body. A
wait is as long as all its parts together, and a new one begins with each item. Under a stall time
waits pass one after another up to the first that is too long, brings an error, or brings a chunk
that cannot be written.
-/

namespace ServerLauncher

/-- A wait: how long it takes, if it ends at all, the error that comes at its end, if any, and the
failure to write what comes. -/
structure Wait where
  length : Option Nat
  error : Option TransportError := none
  unwritten : Option FileError := none
  deriving DecidableEq, Repr

namespace Wait

/-- The wait takes longer than the stall time, or never ends. -/
def isOver (stall : Nat) (w : Wait) : Bool :=
  w.length.all (stall < ·)

/-- The wait ends in time, without an error, and with nothing that cannot be written. -/
structure IsGood (stall : Nat) (w : Wait) : Prop where
  timely : w.isOver stall = false
  error : w.error = none
  written : w.unwritten = none

variable {stall n : Nat} {error : Option TransportError} {unwritten : Option FileError}

theorem isOver_some : isOver stall ⟨some n, error, unwritten⟩ = true ↔ stall < n := by
  simp [isOver]

theorem not_isOver_some (h : n ≤ stall) : isOver stall ⟨some n, error, unwritten⟩ = false := by
  simpa [isOver] using h

theorem le_of_timely {w : Wait} (h : w.isOver stall = false)
    (hn : w.length = some n) : n ≤ stall := by
  simpa [isOver, hn] using h

/-- How long some waits take together. -/
def total : List Wait → Nat
  | [] => 0
  | w :: ws => w.length.getD 0 + total ws

/-- How the waits of a download pass: up to one that is too long, with the time at which it is given
up, or up to an error or a failure to write, or all. -/
inductive Passage where
  | stalled (time : Nat)
  | failed (error : TransportError)
  | unwritten (error : FileError)
  | through
  deriving DecidableEq, Repr

/-- The passage of waits that begin at a time. -/
def passage (stall : Nat) : Nat → List Wait → Passage
  | _, [] => .through
  | time, w :: ws =>
    if w.isOver stall then .stalled (time + stall)
    else
      match w.error, w.unwritten with
      | some e, _ => .failed e
      | none, some e => .unwritten e
      | none, none => passage stall (time + w.length.getD 0) ws

variable {time : Nat} {w : Wait} {ws pre post : List Wait}

theorem passage_of_isOver (h : w.isOver stall = true) :
    passage stall time (w :: ws) = .stalled (time + stall) :=
  if_pos h

theorem passage_of_error {e : TransportError} (h : w.isOver stall = false) (he : w.error = some e) :
    passage stall time (w :: ws) = .failed e := by
  rw [passage, h, if_neg Bool.false_ne_true, he]

theorem passage_of_unwritten {e : FileError} (h : w.isOver stall = false) (hnone : w.error = none)
    (he : w.unwritten = some e) : passage stall time (w :: ws) = .unwritten e := by
  rw [passage, h, if_neg Bool.false_ne_true, hnone, he]

theorem passage_of_good (h : w.IsGood stall) :
    passage stall time (w :: ws) = passage stall (time + w.length.getD 0) ws := by
  rw [passage, h.timely, if_neg Bool.false_ne_true, h.error, h.written]

theorem passage_append (h : ∀ v ∈ pre, v.IsGood stall) :
    passage stall time (pre ++ ws) = passage stall (time + total pre) ws := by
  induction pre generalizing time with
  | nil => rfl
  | cons v pre ih =>
    have hrest : ∀ v' ∈ pre, v'.IsGood stall := fun v' hv' => h v' (List.mem_cons_of_mem _ hv')
    rw [List.cons_append, passage_of_good (h v (List.mem_cons_self ..)), ih hrest, total,
      Nat.add_assoc]

/-- Waits pass up to the first that is not good. -/
theorem exists_first_bad (h : passage stall time ws ≠ .through) :
    ∃ pre w post, ws = pre ++ w :: post ∧ (∀ v ∈ pre, v.IsGood stall) ∧ ¬w.IsGood stall := by
  induction ws generalizing time with
  | nil => exact absurd rfl h
  | cons w ws ih =>
    by_cases hgood : w.IsGood stall
    · rw [passage_of_good hgood] at h
      obtain ⟨pre, w', post, rfl, hpre, hbad⟩ := ih h
      refine ⟨w :: pre, w', post, rfl, ?_, hbad⟩
      intro v hv
      rcases List.mem_cons.1 hv with rfl | hv
      · exact hgood
      · exact hpre v hv
    · exact ⟨[], w, ws, rfl, by simp, hgood⟩

end Wait

namespace Response

/-- The waits of a body when a part of the first one is over: one for each item, and one for the
end. -/
def bodyWaits : Nat → List Step → List Wait
  | n, [] => [⟨some n, none, none⟩]
  | n, .chunk _ :: rest => ⟨some n, none, none⟩ :: bodyWaits 0 rest
  | n, .unwritten _ e :: rest => ⟨some n, none, some e⟩ :: bodyWaits 0 rest
  | n, .fail e :: rest => ⟨some n, some e, none⟩ :: bodyWaits 0 rest
  | n, .wait millis :: rest => bodyWaits (n + millis) rest
  | _, .hang :: _ => [⟨none, none, none⟩]
  | n, .cancel :: rest => bodyWaits n rest
  | n, .change _ :: rest => bodyWaits n rest

/-- The wait for the answer. -/
def answerWait (response : Response) : Wait :=
  match response.answer with
  | .body => ⟨some response.delay, none, none⟩
  | .fail e => ⟨some response.delay, some e, none⟩
  | .hang => ⟨none, none, none⟩

/-- All waits of a response, one after another. -/
def waits (response : Response) : List Wait :=
  response.answerWait :: bodyWaits 0 response.steps

open Wait in
/-- A wait of which too much is over is given up when its time is up, whatever is to come. -/
theorem passage_of_over {stall n : Nat} (h : stall < n) (time : Nat) (steps : List Step) :
    passage stall time (bodyWaits n steps) = .stalled (time + stall) := by
  induction steps generalizing n with
  | nil => exact passage_of_isOver (isOver_some.2 h)
  | cons step rest ih =>
    cases step with
    | chunk bytes => exact passage_of_isOver (isOver_some.2 h)
    | unwritten kept e => exact passage_of_isOver (isOver_some.2 h)
    | fail e => exact passage_of_isOver (isOver_some.2 h)
    | wait millis =>
      have hlonger : stall < n + millis := by omega
      exact ih hlonger
    | hang => rfl
    | cancel => exact ih h
    | change c => exact ih h

end Response

namespace Watch

variable {w w' : Watch} {millis left : Nat}

theorem renew_now (w : Watch) (stall : Nat) : (w.renew stall).now = w.now := rfl

theorem renew_limit (w : Watch) (stall : Nat) : (w.renew stall).limit = w.now + stall := rfl

theorem now_of_pass (h : w.pass millis = (w', none)) : w'.now = w.now + millis := by
  unfold pass at h
  split at h
  · rename_i h0
    rw [← (Prod.mk.inj h).1, h0, Nat.add_zero]
  · dsimp only at h
    split at h
    · cases (Prod.mk.inj h).2
    · split at h
      · rw [← (Prod.mk.inj h).1]
      · cases (Prod.mk.inj h).2

theorem Calm.firesBy (h : w.Calm left) (t : Nat) : w.firesBy t = false := by
  simp [Watch.firesBy, h.fired, h.fireAt]

theorem Calm.pass_of_lt (h : w.Calm left) (hlong : left < millis) :
    w.pass millis = ({ w with now := w.limit }, some .stalled) := by
  have h0 : millis ≠ 0 := by omega
  have hlate : ¬w.now + millis ≤ w.limit := by
    rw [h.limit]
    omega
  unfold Watch.pass
  rw [if_neg h0]
  dsimp only
  rw [h.firesBy, if_neg Bool.false_ne_true, if_neg hlate]

theorem Calm.hang (h : w.Calm left) : w.hang = ({ w with now := w.limit }, .stalled) := by
  rw [Watch.hang, h.firesBy, if_neg Bool.false_ne_true]

theorem cancelTime_le {t : Nat} (hnow : w.now ≤ t) (h : w.firesBy t = true) : w.cancelTime ≤ t := by
  unfold cancelTime
  unfold firesBy at h
  cases hfired : w.fired with
  | true => simpa using hnow
  | false =>
    cases hat : w.fireAt with
    | none => simp [hfired, hat] at h
    | some t' =>
      have ht' : t' ≤ t := by simpa [hfired, hat] using h
      exact Nat.max_le.2 ⟨hnow, ht'⟩

theorem pass_le_limit (h : w.now ≤ w.limit) (millis : Nat) :
    (w.pass millis).1.now ≤ w.limit ∧ (w.pass millis).1.limit = w.limit := by
  unfold pass
  split
  · exact ⟨h, rfl⟩
  · dsimp only
    split
    · rename_i hfires
      refine ⟨?_, rfl⟩
      have hby : w.now ≤ min (w.now + millis) w.limit := by omega
      have hcut := cancelTime_le hby hfires
      dsimp only
      omega
    · split
      · rename_i hready
        exact ⟨hready, rfl⟩
      · exact ⟨Nat.le_refl _, rfl⟩

theorem hang_le_limit (h : w.now ≤ w.limit) : w.hang.1.now ≤ w.limit := by
  unfold hang
  split
  · rename_i hfires
    exact cancelTime_le h hfires
  · exact Nat.le_refl _

end Watch

end ServerLauncher
