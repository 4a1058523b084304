import ServerLauncher.Config
import ServerLauncher.Proofs.Percentages

/-!
What a tracker of a transfer of unknown length shows over time. The times of the events that counts
lead to lie at least the spacing apart, and a count is passed over only when the last of them is
nearer than that; so no count is withheld for longer than the spacing. The end of the transfer is
always shown. No event has a share, and nothing is ever reported of the whole.
-/

namespace ServerLauncher.Progress.Tracker

/-- What a tracker was told, and the event that it led to. -/
structure Reply where
  notice : Notice
  event : Option Event
  deriving DecidableEq, Repr

/-- The time at which a count is told. The end of a transfer is told without one. -/
def Notice.time? : Notice → Option Nat
  | advance now _ => some now
  | finish _ => none

/-- The time of an event that a count led to. -/
def Reply.shown? (r : Reply) : Option Nat := r.event.bind fun _ => r.notice.time?

def shownTimes (rs : List Reply) : List Nat := rs.filterMap Reply.shown?

/-- The replies to several notices. -/
def replies (t : Tracker) : List Notice → List Reply
  | [] => []
  | n :: ns => ⟨n, (t.hear n).2⟩ :: (t.hear n).1.replies ns

variable {t : Tracker} {rs : List Reply}

theorem notices_replies (t : Tracker) (ns : List Notice) :
    (t.replies ns).map Reply.notice = ns := by
  induction ns generalizing t with
  | nil => rfl
  | cons n ns ih => rw [replies, List.map_cons, ih]

theorem events_replies (t : Tracker) (ns : List Notice) :
    (t.replies ns).filterMap Reply.event = (t.run ns).2 := by
  induction ns generalizing t with
  | nil => rfl
  | cons n ns ih =>
    rw [replies, run, ← ih, List.filterMap_cons]
    cases (t.hear n).2 <;> rfl

/-- A reply is that of the tracker after the notices before it. -/
theorem exists_run_of_replies {ns : List Notice} {before after : List Reply} {n : Notice}
    {event : Option Event} (h : t.replies ns = before ++ ⟨n, event⟩ :: after) :
    ∃ ms rest, ns = ms ++ n :: rest ∧ t.replies ms = before ∧
      event = ((t.run ms).1.hear n).2 := by
  induction ns generalizing t before with
  | nil => simp [replies] at h
  | cons m ns ih =>
    rw [replies] at h
    cases before with
    | nil =>
      obtain ⟨hreply, -⟩ := List.cons.inj h
      obtain ⟨rfl, rfl⟩ := Reply.mk.inj hreply
      exact ⟨[], ns, rfl, rfl, rfl⟩
    | cons b before =>
      obtain ⟨rfl, htail⟩ := List.cons.inj h
      obtain ⟨ms, rest, hns, hbefore, hevent⟩ := ih htail
      refine ⟨m :: ms, rest, ?_, ?_, hevent⟩
      · rw [hns, List.cons_append]
      · rw [replies, hbefore]

/-- A tracker of unknown length that has shown these replies, none too early. -/
structure Spaced (t : Tracker) (rs : List Reply) : Prop where
  unknown : t.total = none
  last : t.lastShown = (shownTimes rs).getLast?
  apart : (shownTimes rs).Pairwise fun earlier later => earlier + spacing ≤ later

namespace Spaced

theorem start : Spaced (.start none) [] where
  unknown := rfl
  last := rfl
  apart := List.Pairwise.nil

theorem last_mem (h : Spaced t rs) {last : Nat} (hlast : t.lastShown = some last) :
    last ∈ shownTimes rs :=
  List.mem_of_getLast? (h.last.symm.trans hlast)

theorem le_last (h : Spaced t rs) {last time : Nat} (hlast : t.lastShown = some last)
    (htime : time ∈ shownTimes rs) : time ≤ last := by
  have hapart := h.apart
  obtain ⟨times, hconcat⟩ := List.getLast?_eq_some_iff.1 (h.last.symm.trans hlast)
  rw [hconcat] at htime hapart
  rcases List.mem_append.1 htime with hearlier | hself
  · have hgap := (List.pairwise_append.1 hapart).2.2 time hearlier last (List.mem_singleton_self _)
    omega
  · exact Nat.le_of_eq (List.mem_singleton.1 hself)

/-- It is the last event that decides, but none of those before it is nearer. -/
theorem isDue_iff (h : Spaced t rs) (now : Nat) :
    t.isDue now = true ↔ ∀ last ∈ shownTimes rs, last + spacing ≤ now := by
  cases hlast : t.lastShown with
  | none =>
    have hnil : shownTimes rs = [] := List.getLast?_eq_none_iff.1 (h.last.symm.trans hlast)
    rw [isDue, hlast, hnil]
    simp
  | some last =>
    have hpos : 0 < spacing := by decide
    rw [isDue, hlast]
    constructor
    · intro hdue time htime
      have hgap : spacing ≤ now - last := of_decide_eq_true hdue
      have hle := h.le_last hlast htime
      omega
    · intro hall
      have hgap := hall last (h.last_mem hlast)
      apply decide_eq_true
      omega

theorem silent (h : Spaced t rs) {r : Reply} (hr : r.shown? = none) : Spaced t (rs ++ [r]) := by
  have hsame : shownTimes (rs ++ [r]) = shownTimes rs := by
    rw [shownTimes, List.filterMap_append, List.filterMap_cons_none hr, List.filterMap_nil,
      List.append_nil]
    rfl
  exact ⟨h.unknown, hsame ▸ h.last, hsame ▸ h.apart⟩

theorem show_due (h : Spaced t rs) {now : Nat} (hdue : t.isDue now = true) {r : Reply}
    (hr : r.shown? = some now) : Spaced { t with lastShown := some now } (rs ++ [r]) := by
  have htimes : shownTimes (rs ++ [r]) = shownTimes rs ++ [now] := by
    rw [shownTimes, List.filterMap_append, List.filterMap_cons_some hr]
    rfl
  refine ⟨h.unknown, ?_, ?_⟩
  · rw [htimes, List.getLast?_concat]
  · rw [htimes, List.pairwise_append]
    refine ⟨h.apart, List.pairwise_singleton _ _, ?_⟩
    intro earlier hearlier later hlater
    rw [List.mem_singleton.1 hlater]
    exact (h.isDue_iff now).1 hdue earlier hearlier

theorem hear (h : Spaced t rs) (n : Notice) :
    Spaced (t.hear n).1 (rs ++ [⟨n, (t.hear n).2⟩]) := by
  cases n with
  | advance now received =>
    rw [Tracker.hear, advance_of_unknown h.unknown]
    by_cases hdue : t.isDue now = true
    · rw [if_pos hdue]
      exact h.show_due hdue rfl
    · rw [if_neg hdue]
      exact h.silent rfl
  | finish received =>
    have hsame : (t.finish received.toNat).1 = t := by rw [finish, h.unknown]
    rw [Tracker.hear, hsame]
    apply h.silent
    rw [Reply.shown?, finish_event h.unknown]
    rfl

theorem run (h : Spaced t rs) (ns : List Notice) :
    Spaced (t.run ns).1 (rs ++ t.replies ns) := by
  induction ns generalizing t rs with
  | nil => simpa only [Tracker.run, replies, List.append_nil] using h
  | cons n ns ih =>
    have hnext := ih (h.hear n)
    rwa [List.append_assoc] at hnext

/-- A count is passed over exactly if an event was shown less than the spacing before it. -/
theorem passed_over_iff (h : Spaced t rs) (now : Nat) (received : UInt64) :
    (t.hear (.advance now received)).2 = none ↔ ∃ last ∈ shownTimes rs, now < last + spacing := by
  have hdue := h.isDue_iff now
  rw [Tracker.hear, advance_of_unknown h.unknown]
  by_cases hd : t.isDue now = true
  · rw [if_pos hd]
    have hall := hdue.1 hd
    constructor
    · intro hnone
      cases hnone
    · rintro ⟨last, hmem, hlt⟩
      have := hall last hmem
      omega
  · rw [if_neg hd]
    have hsome : ¬∀ last ∈ shownTimes rs, last + spacing ≤ now := mt hdue.2 hd
    push Not at hsome
    exact ⟨fun _ => hsome, fun _ => rfl⟩

end Spaced

theorem spaced_run (ns : List Notice) :
    Spaced ((start none).run ns).1 ((start none).replies ns) :=
  Spaced.start.run ns

theorem mem_times_of_shown {ns : List Notice} {now : Nat} (h : now ∈ shownTimes (t.replies ns)) :
    now ∈ ns.filterMap Notice.time? := by
  obtain ⟨r, hr, hshown⟩ := List.mem_filterMap.1 h
  obtain ⟨-, -, htime⟩ := Option.bind_eq_some_iff.1 hshown
  rw [← notices_replies t ns]
  exact List.mem_filterMap.2 ⟨r.notice, List.mem_map_of_mem hr, htime⟩

/-- While the clock never falls, whatever counts a tracker of unknown length is told, and however
often the end: the events of counts lie 100 ms apart, and a count leads to none exactly if there was
one less than 100 ms before. Every end is shown. No event has an increment, and the reported
fraction stays zero. -/
theorem updates_spaced_and_prompt (ns : List Notice)
    (hclock : (ns.filterMap Notice.time?).Pairwise (· ≤ ·)) :
    let interval := (Duration.ofMillis 100).toNanos
    let rs := (start none).replies ns
    rs.map Reply.notice = ns ∧
      ((shownTimes rs).Pairwise fun earlier later => earlier + interval ≤ later) ∧
      (∀ before now received event after,
        rs = before ++ ⟨.advance now received, event⟩ :: after →
          (event = none ↔ ∃ last ∈ shownTimes before, last ≤ now ∧ now < last + interval)) ∧
      (∀ received event, ⟨.finish received, event⟩ ∈ rs →
        event = some ⟨Size.text received.toNat ++ " (complete)", 0⟩) ∧
      (∀ r ∈ rs, ∀ e, r.event = some e → e.increment = 0) ∧
      ((start none).run ns).1.fraction = 0 := by
  intro interval rs
  have hbooks : Accounts ((start none).run ns).1 ((start none).run ns).2 :=
    run_preserves (fun _ _ n haccounts => haccounts.hear n) (Accounts.start none) ns
  have hunknown := (spaced_run ns).unknown
  have hzero := hbooks.zero hunknown
  refine ⟨notices_replies _ ns, (spaced_run ns).apart, ?_, ?_, ?_, ?_⟩
  · intro before now received event after hrs
    obtain ⟨ms, rest, rfl, rfl, rfl⟩ := exists_run_of_replies hrs
    rw [(spaced_run ms).passed_over_iff now received]
    -- an event before the count bears the time of an earlier notice, so the clock is behind it
    rw [List.filterMap_append, List.pairwise_append] at hclock
    have hbefore : ∀ last ∈ shownTimes ((start none).replies ms), last ≤ now := by
      intro last hlast
      exact hclock.2.2 last (mem_times_of_shown hlast) now List.mem_cons_self
    constructor
    · rintro ⟨last, hmem, hlt⟩
      exact ⟨last, hmem, hbefore last hmem, hlt⟩
    · rintro ⟨last, hmem, -, hlt⟩
      exact ⟨last, hmem, hlt⟩
  · intro received event hmem
    obtain ⟨before, after, hrs⟩ := List.append_of_mem hmem
    obtain ⟨ms, rest, -, -, rfl⟩ := exists_run_of_replies hrs
    exact finish_event (spaced_run ms).unknown received.toNat
  · intro r hr e he
    apply hzero e
    rw [← events_replies]
    exact List.mem_filterMap.2 ⟨r, hr, he⟩
  · have hsum : incrementSum ((start none).run ns).2 = 0 := incrementSum_of_zero hzero
    rw [fraction, ← hbooks.sum_eq, hsum, Nat.cast_zero, zero_div]

/-- One nanosecond less than the interval after an event, and the interval after it. -/
def boundaryNotices : List Notice :=
  [.advance 0 0, .advance 99999999 2048, .finish 2048, .advance 100000000 2048]

theorem count_before_boundary_passed_over :
    (boundaryNotices.filterMap Notice.time?).Pairwise (· ≤ ·) ∧
      (start none).replies boundaryNotices =
        [⟨.advance 0 0, some ⟨"0 KiB", 0⟩⟩] ++ ⟨.advance 99999999 2048, none⟩ ::
          [⟨.finish 2048, some ⟨"2 KiB (complete)", 0⟩⟩,
            ⟨.advance 100000000 2048, some ⟨"2 KiB", 0⟩⟩] ∧
      ∃ last ∈ shownTimes [⟨.advance 0 0, some ⟨"0 KiB", 0⟩⟩],
        last ≤ 99999999 ∧ 99999999 < last + (Duration.ofMillis 100).toNanos := by
  have hclock : (boundaryNotices.filterMap Notice.time?).Pairwise (· ≤ ·) := by decide
  have hreplies : (start none).replies boundaryNotices =
      [⟨.advance 0 0, some ⟨"0 KiB", 0⟩⟩] ++ ⟨.advance 99999999 2048, none⟩ ::
        [⟨.finish 2048, some ⟨"2 KiB (complete)", 0⟩⟩,
          ⟨.advance 100000000 2048, some ⟨"2 KiB", 0⟩⟩] := by
    decide +kernel
  have hspaced := (updates_spaced_and_prompt boundaryNotices hclock).2.2.1
  exact ⟨hclock, hreplies, (hspaced _ _ _ _ _ hreplies).1 rfl⟩

end ServerLauncher.Progress.Tracker
