import ServerLauncher.Proofs.Ledger
import ServerLauncher.Proofs.SingleCall

/-!
What a caller hears of one call. The title comes first, and only if something is to be downloaded;
then come the events of the tracker, which is told of every chunk and of the end of the body. So
with an announced length the increments never exceed the whole and reach it when the body is
installed, and with none the last event says that the body is complete.
-/

namespace ServerLauncher

open ServerLauncher.Progress

namespace Download

/-- All that was reported since `before` is in the books of a tracker for a body of this length. -/
def Booked (before : List Event) (length : Option Nat) (t : Tracker) (events : List Event) : Prop :=
  t.total = length ∧ ∃ es, events = before ++ es ∧ t.Accounts es

variable {j : Job} {response : Response} {s : Transfer} {before : List Event}
  {length : Option Nat}

namespace Reception

variable {r r' : Reception} {step : Step} {ss : List Step}

/-- The books of a body that is being received. -/
def IsBooked (before : List Event) (length : Option Nat) (r : Reception) : Prop :=
  Booked before length r.tracker r.transfer.events

theorem events_report_getD (s : Transfer) (event : Option Event) :
    ((event.map s.report).getD s).events = s.events ++ event.toList := by
  cases event with
  | none => exact (List.append_nil _).symm
  | some e => rfl

theorem IsBooked.keep (h : IsBooked before length r) (bytes : Bytes) :
    IsBooked before length (r.keep bytes) := by
  obtain ⟨htotal, es, hevents, haccounts⟩ := h
  have hbooks := haccounts.advance
    (Transfer.eventTime { r.transfer with tree := r.staged.write r.transfer.tree bytes })
    (r.received + bytes.length)
  refine ⟨(r.tracker.advance_total _ _).trans htotal, _, ?_, hbooks⟩
  rw [← List.append_assoc, ← hevents]
  exact events_report_getD _ _

theorem IsBooked.told (h : IsBooked before length r) : IsBooked before length r.told := by
  obtain ⟨htotal, es, hevents, haccounts⟩ := h
  refine ⟨(r.tracker.finish_total _).trans htotal, _, ?_, haccounts.finish r.received⟩
  rw [← List.append_assoc, ← hevents]
  exact events_report_getD _ _

theorem IsBooked.take_go (h : IsBooked before length r) (ht : r.take j step = .go r') :
    IsBooked before length r' := by
  cases step with
  | chunk bytes =>
    rw [take] at ht
    obtain ⟨-, w, -, rfl⟩ := await_go ht
    exact h.keep bytes
  | unwritten kept e => cases ht
  | fail e => cases ht
  | wait millis =>
    simp only [take] at ht
    split at ht
    · obtain rfl := Turn.go.inj ht
      exact h
    · cases ht
  | hang => simp [take, stop] at ht
  | cancel =>
    obtain rfl := Turn.go.inj ht
    exact h
  | change c =>
    obtain rfl := Turn.go.inj ht
    exact h

theorem IsBooked.take_stop (h : IsBooked before length r) {s' : Transfer} {e : Ending}
    (ht : r.take j step = .stop s' e) : ∃ t, Booked before length t s'.events := by
  cases step with
  | chunk bytes =>
    rw [take] at ht
    obtain ⟨-, -, rfl⟩ := await_stop ht
    exact ⟨_, h.keep bytes⟩
  | unwritten kept e =>
    obtain ⟨rfl, -⟩ := Turn.stop.inj ht
    exact ⟨_, h⟩
  | fail e =>
    obtain ⟨rfl, -⟩ := Turn.stop.inj ht
    exact ⟨_, h⟩
  | wait millis =>
    simp only [take] at ht
    split at ht
    · cases ht
    · obtain ⟨rfl, -⟩ := Turn.stop.inj ht
      exact ⟨_, h⟩
  | hang =>
    obtain ⟨rfl, -⟩ := Turn.stop.inj ht
    exact ⟨_, h⟩
  | cancel => cases ht
  | change c => cases ht

/-- What the events of a completed download come to. -/
def Rounded (length : Option Nat) (t : Tracker) (events : List Event) (bytes : Nat) : Prop :=
  (length.isSome = true → t.units = resolution) ∧
    (length = none → events.getLast? = some ⟨Size.text bytes ++ " (complete)", 0⟩)

theorem IsBooked.finish (h : IsBooked before length r) (j : Job) :
    ∃ t, Booked before length t (r.finish j).1.events ∧
      ∀ n, (r.finish j).2 = .completed n → Rounded length t (r.finish j).1.events n := by
  have htold := h.told
  obtain ⟨htotal, es, hevents, haccounts⟩ := h
  rw [finish_eq]
  split
  · exact ⟨_, ⟨htotal, es, hevents, haccounts⟩, by simp [abandon]⟩
  · split
    · refine ⟨_, htold, fun n hn => ⟨fun hsome => ?_, fun hnone => ?_⟩⟩
      · exact Tracker.finish_units haccounts (htotal ▸ hsome) r.received
      · obtain rfl := Ending.completed.inj hn
        have hevent := Tracker.finish_event (htotal.trans hnone) r.received
        have htold_events : r.told.transfer.events =
            r.transfer.events ++ (r.tracker.finish r.received).2.toList :=
          events_report_getD _ _
        dsimp only
        rw [htold_events, hevent]
        simp
    · exact ⟨_, htold, by simp [abandon]⟩

theorem IsBooked.run (h : IsBooked before length r) (j : Job) (ss : List Step) :
    ∃ t, Booked before length t (r.run j ss).1.events ∧
      ∀ n, (r.run j ss).2 = .completed n → Rounded length t (r.run j ss).1.events n := by
  induction ss generalizing r with
  | nil => exact h.finish j
  | cons step rest ih =>
    rw [Reception.run]
    split
    · rename_i r' hgo
      exact ih (h.take_go hgo)
    · rename_i s' e hstop
      obtain ⟨t, ht⟩ := h.take_stop hstop
      exact ⟨t, ht, fun n hn => absurd hn ((Reception.take_stop hstop).2.2.1 n)⟩

end Reception

theorem fetch_events (j : Job) (response : Response) (s : Transfer) :
    (fetch j response s).1.events = s.events := by
  unfold fetch
  generalize s.watch.renew j.stallMillis = w
  dsimp only
  generalize w.pass response.delay = passed
  obtain ⟨w₁, interruption⟩ := passed
  cases interruption with
  | some i => rfl
  | none =>
    dsimp only
    cases response.answer <;> rfl

theorem opening_events (j : Job) (response : Response) (s : Transfer) :
    match opening j response s with
    | .go r => r.IsBooked s.events response.length
    | .stop s' _ => s'.events = s.events := by
  unfold opening
  cases FilePath.parent? j.destination with
  | none => rfl
  | some dir =>
    dsimp only
    by_cases hf : s.watch.fired = true
    · rw [if_pos hf]
    · rw [if_neg hf]
      have hevents := fetch_events j response s
      generalize fetch j response s = fetched at hevents ⊢
      obtain ⟨s₁, ending⟩ := fetched
      cases ending with
      | some e => exact hevents
      | none =>
        have hstaging := staging_silent j response dir s₁
        dsimp only
        generalize staging j response dir s₁ = turn at hstaging ⊢
        cases turn with
        | go r =>
          obtain ⟨-, hevents', htracker⟩ := hstaging
          refine ⟨by rw [htracker]; rfl, [], ?_, htracker ▸ Tracker.Accounts.start _⟩
          rw [hevents', hevents, List.append_nil]
        | stop s' e => exact hstaging.2.trans hevents

/-- Every event of a download is in the books of its tracker, which are closed by a completion. -/
theorem run_booked (j : Job) (response : Response) (s : Transfer) :
    ∃ t, Booked s.events response.length t (run j response s).1.events ∧
      ∀ n, (run j response s).2 = .completed n →
        Reception.Rounded response.length t (run j response s).1.events n := by
  rw [run_eq]
  have hevents := opening_events j response s
  cases hopen : opening j response s with
  | go r =>
    rw [hopen] at hevents
    exact hevents.run j response.steps
  | stop s' e =>
    rw [hopen] at hevents
    refine ⟨.start response.length, ⟨rfl, [], ?_, .start _⟩, ?_⟩
    · rw [List.append_nil]
      exact hevents
    · intro n hn
      exact absurd hn ((opening_stop hopen).2 n)

end Download

namespace Acquirer

variable {a : Acquirer} {probe : Probe} {respond : String → Response} {root : String} {tag : Tag}
  {s : Transfer} {r : Report}

/-- What was reported, the title included, by a call that was answered with a body of this
length. -/
structure Heard (a : Acquirer) (response : Response) (r : Report) (es : List Event) : Prop where
  first : es ≠ [] → es.head? = some ⟨"Downloading " ++ a.config.artifact ++ " server", 0⟩
  positive : response.length.isSome = true → ∀ e ∈ es.tail, 0 < e.increment
  bounded : ∀ pre, pre <+: es → incrementSum pre ≤ resolution
  few : response.length.isSome = true → es.length ≤ 101
  whole : response.length.isSome = true → ∀ p, r.result = .ok (.downloaded p) →
    incrementSum es = resolution
  zero : response.length = none → ∀ e ∈ es, e.increment = 0
  complete : response.length = none → ∀ p, r.result = .ok (.downloaded p) →
    es.getLast? = some ⟨Size.text (Response.content response.steps).length ++ " (complete)", 0⟩

theorem heard_nil (response : Response) (h : ∀ p, r.result ≠ .ok (.downloaded p)) :
    Heard a response r [] where
  first := by simp
  positive := by simp
  bounded pre hpre := by simp [List.prefix_nil.1 hpre, incrementSum]
  few := by simp
  whole _ p hp := absurd hp (h p)
  zero := by simp
  complete _ p hp := absurd hp (h p)

theorem IsDownload.heard {response : Response} {url path : String}
    (h : IsDownload a response url path s r) :
    ∃ es, r.transfer.events = s.events ++ es ∧ Heard a response r es := by
  obtain ⟨t, ⟨htotal, es, hevents, hbooks⟩, hdone⟩ :=
    Download.run_booked (a.job url path) response (s.report a.title)
  have hwhole : ∀ p, r.result = .ok (.downloaded p) →
      Download.Reception.Rounded response.length t
        (Download.run (a.job url path) response (s.report a.title)).1.events
        (Response.content response.steps).length := by
    intro p hp
    obtain ⟨-, n, hn⟩ := (h.downloaded p).1 hp
    obtain rfl := (Download.whole_of_completed hn).2.2.1
    exact hdone _ hn
  rw [← h.transfer] at hevents hwhole
  have htitle : incrementSum (a.title :: es) = incrementSum es := by
    simp [incrementSum, title]
  have hsplit : r.transfer.events = s.events ++ a.title :: es := by
    rw [hevents]
    exact List.append_assoc _ [a.title] es
  refine ⟨a.title :: es, hsplit, ?_, ?_, ?_, ?_, ?_, ?_, ?_⟩
  · intro _
    exact rfl
  · intro hsome
    exact hbooks.positive (htotal ▸ hsome)
  · intro pre hpre
    calc incrementSum pre ≤ incrementSum (a.title :: es) := incrementSum_le_of_prefix hpre
      _ = t.units := htitle.trans hbooks.sum_eq
      _ ≤ resolution := hbooks.units_le
  · intro hsome
    have hlength := hbooks.length_le (htotal ▸ hsome)
    have hpercent := hbooks.percent_le
    rw [List.length_cons]
    omega
  · intro hsome p hp
    rw [htitle, hbooks.sum_eq]
    exact (hwhole p hp).1 hsome
  · intro hnone e he
    rcases List.mem_cons.1 he with rfl | he
    · rfl
    · exact hbooks.zero (htotal.trans hnone) e he
  · intro hnone p hp
    have hlast := (hwhole p hp).2 hnone
    rw [hsplit, List.getLast?_append, List.getLast?_cons, Option.some_or] at hlast
    rw [List.getLast?_cons]
    exact hlast

/-- The first event of a call is its title, and a server that is there already is not announced.
With an announced length every later event has an increment; together they never exceed the whole,
and they are the whole when the server has been downloaded. With none no event has one, and the
last one of a download says that it is complete. -/
theorem progress_of_call (a : Acquirer) (probe : Probe) (respond : String → Response)
    (root : String) (tag : Tag) (s : Transfer) :
    ∃ es, (a.ensure probe respond root tag s).transfer.events = s.events ++ es ∧
      (∀ p, (a.ensure probe respond root tag s).result = .ok (.cached p) → es = []) ∧
      (∀ e, a.url tag = .error e → es = [] ∧
        ∀ p, (a.ensure probe respond root tag s).result ≠ .ok (.downloaded p)) ∧
      ∀ url, a.url tag = .ok url →
        Heard a (respond url) (a.ensure probe respond root tag s) es := by
  rcases a.ensure_cases probe respond root tag s with
    ⟨⟨t, hleaves⟩, hne⟩ | ⟨t, url, hmade, hnot, hurl, hdownload⟩
  · exact ⟨[], by rw [hleaves.events, List.append_nil], fun _ _ => rfl, fun _ _ => ⟨rfl, hne⟩,
      fun url _ => heard_nil (respond url) hne⟩
  · obtain ⟨es, hevents, hheard⟩ := hdownload.heard
    refine ⟨es, hevents, ?_, ?_, ?_⟩
    · intro p hp
      exact absurd ((cached_iff hmade p).1 hp).1 hnot
    · intro e he
      rw [hurl] at he
      cases he
    · intro url' hurl'
      rw [hurl] at hurl'
      rw [← Except.ok.inj hurl']
      exact hheard

def emptyStart : Transfer := .start ⟨[], []⟩ {} false

def emptyResponse : Response := { length := some 0 }

/-- A body without bytes is reported as a whole, too. -/
theorem empty_body_reported_whole :
    (plain.ensure (.always .missing) (fun _ => emptyResponse) "root" firstTag emptyStart).result =
        .ok (.downloaded "root/server/prosemd-lsp-v1") ∧
      incrementSum (plain.ensure (.always .missing) (fun _ => emptyResponse) "root" firstTag
        emptyStart).transfer.events = resolution := by
  have hresult : (plain.ensure (.always .missing) (fun _ => emptyResponse) "root" firstTag
      emptyStart).result = .ok (.downloaded "root/server/prosemd-lsp-v1") :=
    Tree.toOption_eq_some_iff.1 (by decide +kernel)
  have hurl : plain.url firstTag =
      .ok "https://github.com/kitten/prosemd-lsp/releases/download/v1/prosemd-lsp-linux" :=
    Tree.toOption_eq_some_iff.1 (by decide +kernel)
  obtain ⟨es, hevents, -, -, hheard⟩ :=
    progress_of_call plain (.always .missing) (fun _ => emptyResponse) "root" firstTag emptyStart
  have hwhole := (hheard _ hurl).whole rfl _ hresult
  have hnone : emptyStart.events = [] := rfl
  refine ⟨hresult, ?_⟩
  rw [hevents, hnone, List.nil_append]
  exact hwhole

end Acquirer

end ServerLauncher
