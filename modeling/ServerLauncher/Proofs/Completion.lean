import ServerLauncher.Proofs.Surroundings

/-!
When a download completes. While nobody cancels and nothing is waited for too long, every step but a
failure goes on, so the body is received to its end or up to the first failure, of the store or of
the file. At the end only the announced length decides, if the file can be closed. What has arrived
then takes the place of the destination.
-/

namespace ServerLauncher

/-- The token does not fire of itself, and the current wait has some time left. -/
structure Watch.Calm (w : Watch) (left : Nat) : Prop where
  fired : w.fired = false
  fireAt : w.fireAt = none
  limit : w.limit = w.now + left

namespace Watch.Calm

variable {w : Watch} {left : Nat}

theorem renew (hfired : w.fired = false) (hfireAt : w.fireAt = none) (stall : Nat) :
    (w.renew stall).Calm stall :=
  ⟨hfired, hfireAt, rfl⟩

theorem pass (h : w.Calm left) {n : Nat} (hn : n ≤ left) :
    ∃ w', w.pass n = (w', none) ∧ w'.Calm (left - n) := by
  by_cases h0 : n = 0
  · subst h0
    exact ⟨w, by simp [Watch.pass], h⟩
  · have hready : w.now + n ≤ w.limit := by
      rw [h.limit]
      omega
    have hfires : ∀ t, w.firesBy t = false := by
      intro t
      simp [firesBy, h.fired, h.fireAt]
    refine ⟨{ w with now := w.now + n }, ?_, h.fired, h.fireAt, ?_⟩
    · simp [Watch.pass, h0, hfires, hready]
    · have := h.limit
      dsimp only
      omega

end Watch.Calm

namespace Download

/-- Up to the first failure nobody cancels and no chunk is waited for too long. -/
def Steady (stall : Nat) : Nat → List Step → Prop
  | _, [] => True
  | _, .chunk _ :: rest => Steady stall stall rest
  | _, .unwritten .. :: _ => True
  | _, .fail _ :: _ => True
  | left, .wait millis :: rest => millis ≤ left ∧ Steady stall (left - millis) rest
  | _, .hang :: _ => False
  | _, .cancel :: _ => False
  | left, .change _ :: rest => Steady stall left rest

/-- Nobody cancels, and neither the answer nor a chunk is waited for too long. -/
structure Undisturbed (j : Job) (response : Response) (s : Transfer) : Prop where
  fired : s.watch.fired = false
  fireAt : s.watch.fireAt = none
  onEvent : s.onEvent = none
  cancels : response.cancels = false
  delay : response.delay ≤ j.stallMillis
  answer : response.answer ≠ .hang
  steps : Steady j.stallMillis j.stallMillis response.steps

/-- A body that is received with some time left for the next chunk. -/
structure Reception.Calm (r : Reception) (left : Nat) : Prop where
  watch : r.transfer.watch.Calm left
  onEvent : r.transfer.onEvent = none

namespace Reception.Calm

variable {j : Job} {r : Reception} {left : Nat}

theorem setWatch (h : r.Calm left) {w : Watch} {left' : Nat} (hw : w.Calm left') :
    (r.setWatch w).Calm left' :=
  ⟨hw, h.onEvent⟩

theorem await (h : r.Calm left) (j : Job) :
    ∃ r', r.await j = .go r' ∧ r'.Calm j.stallMillis := by
  refine ⟨r.setWatch (r.transfer.watch.renew j.stallMillis), ?_,
    h.setWatch (.renew h.watch.fired h.watch.fireAt _)⟩
  rw [Reception.await, if_neg (by simp [h.watch.fired])]

theorem report_getD {s : Transfer} (hw : s.watch.Calm left) (hs : s.onEvent = none)
    (event : Option Progress.Event) :
    ((event.map s.report).getD s).watch.Calm left ∧
      ((event.map s.report).getD s).onEvent = none := by
  cases event with
  | none => exact ⟨hw, hs⟩
  | some e => exact ⟨by simpa [Transfer.report, hs] using hw, hs⟩

theorem keep (h : r.Calm left) (bytes : Bytes) : (r.keep bytes).Calm left := by
  have hwatch : (r.keep bytes).transfer.watch.Calm left ∧
      (r.keep bytes).transfer.onEvent = none :=
    report_getD (s := { r.transfer with tree := r.staged.write r.transfer.tree bytes })
      h.watch h.onEvent _
  exact ⟨hwatch.1, hwatch.2⟩

/-- Every step but a failure goes on. -/
theorem course (h : r.Calm left) {pre rest : List Step}
    (hsteady : Steady j.stallMillis left (pre ++ rest)) (hflows : Response.Flows pre) :
    ∃ r', r.Course j pre r' := by
  induction pre generalizing r left with
  | nil => exact ⟨r, .nil r⟩
  | cons s pre ih =>
    have hsplit : Response.Flows ([s] ++ pre) := hflows
    have hflows' : Response.Flows pre := (Response.flows_append.1 hsplit).2
    cases s with
    | chunk bytes =>
      obtain ⟨r₁, hgo, h₁⟩ := (h.keep bytes).await j
      obtain ⟨r', hcourse⟩ := ih h₁ hsteady hflows'
      exact ⟨r', .cons hgo hcourse⟩
    | unwritten kept e => exact absurd (List.mem_cons_self ..) (hflows.written kept e)
    | fail e => exact absurd (List.mem_cons_self ..) (hflows.unfailed e)
    | wait millis =>
      obtain ⟨hwait, hsteady⟩ := hsteady
      obtain ⟨w, hpass, hw⟩ := h.watch.pass hwait
      have hgo : r.take j (.wait millis) = .go (r.setWatch w) := by
        rw [take, hpass]
      obtain ⟨r', hcourse⟩ := ih (h.setWatch hw) hsteady hflows'
      exact ⟨r', .cons hgo hcourse⟩
    | hang => exact hsteady.elim
    | cancel => exact hsteady.elim
    | change c =>
      have hcalm : Calm { r with
          transfer := { r.transfer with tree := r.transfer.tree.apply j.workplace.key c } } left :=
        ⟨h.watch, h.onEvent⟩
      obtain ⟨r', hcourse⟩ := ih hcalm hsteady hflows'
      exact ⟨r', .cons rfl hcourse⟩

end Reception.Calm

open ServerLauncher.Tree

variable {j : Job} {response : Response} {s : Transfer} {dir : String} {t : Tree} {st : Staged}

theorem Undisturbed.fetch_eq (h : Undisturbed j response s) :
    ∃ w left, w.Calm left ∧ fetch j response s =
      ({ s with requests := s.requests ++ [j.url], watch := w },
        match response.answer with
        | .fail e => some (.failed (.transport e))
        | _ => none) := by
  obtain ⟨w, hpass, hw⟩ := (Watch.Calm.renew h.fired h.fireAt j.stallMillis).pass h.delay
  refine ⟨w, _, hw, ?_⟩
  simp only [fetch, hpass, h.cancels]
  cases ha : response.answer with
  | body => rfl
  | fail e => rfl
  | hang => exact absurd ha h.answer

theorem Undisturbed.opening_eq (h : Undisturbed j response s)
    (hdir : FilePath.parent? j.destination = some dir)
    (hmade : Staged.create s.tree j.workplace dir = .ok (t, st)) (hbody : response.answer = .body) :
    ∃ r, opening j response s = .go r ∧ r.Calm j.stallMillis ∧ r.transfer.tree = t ∧
      r.staged = st := by
  obtain ⟨w, left, hw, hfetch⟩ := h.fetch_eq
  rw [hbody] at hfetch
  have hcalm : Reception.Calm
      { transfer := { s with requests := s.requests ++ [j.url], watch := w, tree := t },
        staged := st, expected := response.length, tracker := .start response.length,
        closing := response.closing } left :=
    ⟨hw, h.onEvent⟩
  obtain ⟨r, hgo, hr⟩ := hcalm.await j
  have hstaging : staging j response dir
      { s with requests := s.requests ++ [j.url], watch := w } = .go r := by
    unfold staging
    rw [hmade]
    exact hgo
  have hopen : opening j response s = .go r :=
    (opening_of_answered hdir h.fired hfetch).trans hstaging
  obtain ⟨dir', hdir', -, -, hmade', -⟩ := opening_go hopen
  obtain rfl := Option.some.inj (hdir.symm.trans hdir')
  obtain ⟨rfl, rfl⟩ := Prod.mk.inj (Except.ok.inj (hmade.symm.trans hmade'))
  exact ⟨r, hopen, hr, rfl, rfl⟩

theorem Undisturbed.run_of_fail (h : Undisturbed j response s)
    (hdir : FilePath.parent? j.destination = some dir) {e : TransportError}
    (hfail : response.answer = .fail e) :
    (run j response s).2 = .failed (.transport e) := by
  obtain ⟨w, left, hw, hfetch⟩ := h.fetch_eq
  rw [hfail] at hfetch
  simp [run, hdir, h.fired, hfetch]

/-- An undisturbed body is received at least up to its first failure. -/
theorem Undisturbed.midway (h : Undisturbed j response s)
    (hdir : FilePath.parent? j.destination = some dir)
    (hmade : Staged.create s.tree j.workplace dir = .ok (t, st)) (hbody : response.answer = .body)
    {pre post : List Step} (hsteps : response.steps = pre ++ post)
    (hflows : Response.Flows pre) :
    ∃ r, Midway j response s pre r ∧ r.staged = st ∧
      r.transfer.tree = st.absorbAll j.workplace.key t pre := by
  obtain ⟨r₀, hopen, hcalm, rfl, rfl⟩ := h.opening_eq hdir hmade hbody
  have hsteady := h.steps
  rw [hsteps] at hsteady
  obtain ⟨r, hcourse⟩ := hcalm.course hsteady hflows
  obtain ⟨htree, -, hst, -⟩ := hcourse.spec
  exact ⟨r, ⟨r₀, hopen, hcourse⟩, hst, htree⟩

/-- The first failure of a body is the failure of the download. -/
theorem Undisturbed.run_of_first_fail (h : Undisturbed j response s)
    (hdir : FilePath.parent? j.destination = some dir)
    (hmade : Staged.create s.tree j.workplace dir = .ok (t, st)) (hbody : response.answer = .body)
    {pre post : List Step} {e : TransportError} (hsteps : response.steps = pre ++ .fail e :: post)
    (hflows : Response.Flows pre) :
    (run j response s).2 = .failed (.transport e) := by
  obtain ⟨r, hmid, -, -⟩ := h.midway hdir hmade hbody hsteps hflows
  rw [hmid.run_eq hsteps]
  rfl

theorem Undisturbed.run_of_first_unwritten (h : Undisturbed j response s)
    (hdir : FilePath.parent? j.destination = some dir)
    (hmade : Staged.create s.tree j.workplace dir = .ok (t, st)) (hbody : response.answer = .body)
    {pre post : List Step} {kept : Bytes} {e : FileError}
    (hsteps : response.steps = pre ++ .unwritten kept e :: post) (hflows : Response.Flows pre) :
    (run j response s).2 =
      .failed (.file "write to" (FilePath.join j.workplace.text st.path) e) := by
  obtain ⟨r, hmid, rfl, -⟩ := h.midway hdir hmade hbody hsteps hflows
  rw [hmid.run_eq hsteps]
  rfl

theorem Undisturbed.run_of_flows (h : Undisturbed j response s)
    (hdir : FilePath.parent? j.destination = some dir)
    (hmade : Staged.create s.tree j.workplace dir = .ok (t, st)) (hbody : response.answer = .body)
    (hflows : Response.Flows response.steps) :
    ∃ r : Reception, run j response s = r.finish j ∧ r.expected = response.length ∧
      r.received = (Response.content response.steps).length ∧ r.staged = st ∧
      r.transfer.tree = st.absorbAll j.workplace.key t response.steps ∧
      r.closing = response.closing := by
  have hsteps : response.steps = response.steps ++ [] := (List.append_nil _).symm
  obtain ⟨r, hmid, hst, htree⟩ := h.midway hdir hmade hbody hsteps hflows
  obtain ⟨-, hexp, hrec, -, hclosing⟩ := hmid.spec
  exact ⟨r, hmid.run_eq hsteps, hexp, hrec, hst, htree, hclosing⟩

theorem filter_eq_none_iff {expected : Option Nat} {received : Nat} :
    expected.filter (· != received) = none ↔ expected = none ∨ expected = some received := by
  cases expected <;> simp [Option.filter]

theorem Undisturbed.run_of_unclosed (h : Undisturbed j response s)
    (hdir : FilePath.parent? j.destination = some dir)
    (hmade : Staged.create s.tree j.workplace dir = .ok (t, st)) (hbody : response.answer = .body)
    (hflows : Response.Flows response.steps)
    (hlen : response.length = none ∨
      response.length = some (Response.content response.steps).length)
    {action : String} {e : FileError} (hfault : response.closing.fault? = some (action, e)) :
    (run j response s).2 = .failed (.file action (FilePath.join j.workplace.text st.path) e) := by
  obtain ⟨r, hrun, hexp, hrec, rfl, -, hclosing⟩ := h.run_of_flows hdir hmade hbody hflows
  rw [← hexp, ← hrec] at hlen
  have hfault? : r.fault? j = some (r.fileFault j action e) := by
    simp [Reception.fault?, filter_eq_none_iff.2 hlen, hclosing, hfault]
  rw [hrun]
  rcases r.finish_cases j with ⟨e', s₁, hsome, hf, -⟩ | ⟨hnone, -⟩
  · obtain rfl := Option.some.inj (hfault?.symm.trans hsome)
    rw [hf]
    rfl
  · rw [hfault?] at hnone
    cases hnone

/-- What a completed download has received, whoever disturbs it. -/
theorem whole_of_completed {n : Nat} (h : (run j response s).2 = .completed n) :
    Response.Flows response.steps ∧
      (response.length = none ∨ response.length = some (Response.content response.steps).length) ∧
      n = (Response.content response.steps).length ∧ (fetch j response s).2 = none ∧
      response.closing.fault? = none := by
  have hrun : run j response s = ((run j response s).1, .completed n) := Prod.ext rfl h
  obtain ⟨r, hmid, -, hn, hgood, -⟩ := completed_cases hrun
  obtain ⟨-, hexp, hrec, hflows, hclosing⟩ := hmid.spec
  obtain ⟨r₀, hopen, -⟩ := hmid
  obtain ⟨-, -, -, hfetch, -⟩ := opening_go hopen
  obtain ⟨hlen, hclosed⟩ := Reception.fault?_eq_none_iff.1 hgood
  rw [hexp, hrec] at hlen
  rw [hclosing] at hclosed
  exact ⟨hflows, filter_eq_none_iff.1 hlen, hn.trans hrec, hfetch, hclosed⟩

/-- The content of a completed download stands at the destination, in the place of whatever file or
link was there, and all else is as without the download. -/
theorem destination_of_completed {n : Nat} (h : (run j response s).2 = .completed n)
    (hown : ∀ c ∈ Response.changes response.steps, Staged.freshName s.tree ∉ c.names) :
    ∃ d name, (treeWithout j s response.steps).locateParent j.workplace.key j.destination =
        .ok (d, .name name false) ∧
      (treeWithout j s response.steps).isDir (name :: d) = false ∧
      (run j response s).1.tree.get? (name :: d) =
        some (.file 0o755 (Response.content response.steps)) ∧
      (run j response s).1.tree.erase (name :: d) =
        (treeWithout j s response.steps).erase (name :: d) := by
  have hrun : run j response s = ((run j response s).1, .completed n) := Prod.ext rfl h
  obtain ⟨r, hmid, -, -, -, hcommit⟩ := completed_cases hrun
  obtain ⟨path, dir, hpath, hdir, hst, hbeside⟩ := hmid.beside List.prefix_rfl hown
  obtain ⟨d, name, hloc, hfile, hsame, hother⟩ := Staged.commit_eq_ok hbeside hst hcommit
  have havoid := (Staged.unused_freshName s.tree).not_mem_steps hst.isName hdir
  refine ⟨d, name, hbeside.locateParent_eq_of_parent hst.isName _ hpath havoid hloc,
    (hbeside.isDir_eq _).trans hfile, ?_⟩
  by_cases heq : name :: d = r.staged.key
  · obtain ⟨htree, hget⟩ := hsame heq
    have hunused := hbeside.unused.get?_eq_none dir
    rw [htree, heq]
    refine ⟨hget, ?_⟩
    rw [hst.key, hbeside.erased, erase_of_get?_eq_none hunused]
  · rw [hother heq]
    refine ⟨by simp [get?_add, get?_erase, Staged.mode], ?_⟩
    rw [erase_add_self, erase_of_get?_eq_none (by simp [get?_erase])]

/-- Of a body that comes undisturbed, with a staged file that can be made and moved, the download
completes exactly if it is whole, can be written and its file can be closed. The destination then
holds its content; otherwise the download fails with the first failure of the store or of the file,
or with both lengths if there is none. -/
theorem completes_iff_whole (h : Undisturbed j response s)
    (hdir : FilePath.parent? j.destination = some dir)
    (hmade : Staged.create s.tree j.workplace dir = .ok (t, st)) :
    ((∃ t', st.commit (st.absorbAll j.workplace.key t response.steps) j.workplace
          j.destination = .ok t') →
        ∀ n, (run j response s).2 = .completed n ↔
          response.answer = .body ∧ Response.Flows response.steps ∧
            response.closing.fault? = none ∧
            (response.length = none ∨
              response.length = some (Response.content response.steps).length) ∧
            n = (Response.content response.steps).length) ∧
      ((∀ c ∈ Response.changes response.steps, Staged.freshName s.tree ∉ c.names) →
        ∀ n, (run j response s).2 = .completed n →
          ∃ d name, (treeWithout j s response.steps).locateParent j.workplace.key j.destination =
              .ok (d, .name name false) ∧
            (treeWithout j s response.steps).isDir (name :: d) = false ∧
            (run j response s).1.tree.get? (name :: d) =
              some (.file 0o755 (Response.content response.steps)) ∧
            (run j response s).1.tree.erase (name :: d) =
              (treeWithout j s response.steps).erase (name :: d)) ∧
      (∀ m, response.answer = .body → Response.Flows response.steps →
        response.length = some m → m ≠ (Response.content response.steps).length →
        (run j response s).2 = .failed (.transport (.body ("expected " ++ toString m ++
          " bytes, received " ++ toString (Response.content response.steps).length)))) ∧
      (∀ e, response.answer = .fail e → (run j response s).2 = .failed (.transport e)) ∧
      (∀ pre e post, response.answer = .body → response.steps = pre ++ .fail e :: post →
        Response.Flows pre → (run j response s).2 = .failed (.transport e)) ∧
      (∀ pre kept e post, response.answer = .body →
        response.steps = pre ++ .unwritten kept e :: post → Response.Flows pre →
        (run j response s).2 =
          .failed (.file "write to" (FilePath.join j.workplace.text st.path) e)) ∧
      ∀ action e, response.answer = .body → Response.Flows response.steps →
        (response.length = none ∨
          response.length = some (Response.content response.steps).length) →
        response.closing.fault? = some (action, e) →
        (run j response s).2 =
          .failed (.file action (FilePath.join j.workplace.text st.path) e) := by
  refine ⟨?_, ?_, ?_, ?_, ?_, ?_, ?_⟩
  · rintro ⟨t', hmove⟩ n
    constructor
    · intro hn
      obtain ⟨hflows, hlen, hbytes, hfetch, hclosed⟩ := whole_of_completed hn
      refine ⟨?_, hflows, hclosed, hlen, hbytes⟩
      obtain ⟨w, left, -, heq⟩ := h.fetch_eq
      rw [heq] at hfetch
      cases ha : response.answer with
      | body => rfl
      | fail e => simp [ha] at hfetch
      | hang => exact absurd ha h.answer
    · rintro ⟨hbody, hflows, hclosed, hlen, rfl⟩
      obtain ⟨r, hrun, hexp, hrec, rfl, htree, hclosing⟩ :=
        h.run_of_flows hdir hmade hbody hflows
      rw [hrun]
      rw [← hexp, ← hrec] at hlen
      rw [← hclosing] at hclosed
      rw [← htree] at hmove
      have hgood : r.fault? j = none :=
        Reception.fault?_eq_none_iff.2 ⟨filter_eq_none_iff.2 hlen, hclosed⟩
      rcases r.finish_cases j with ⟨e, s₁, hsome, -⟩ | ⟨-, ⟨s₁, hf, -⟩ | ⟨s₁, e, -, herror, -⟩⟩
      · rw [hgood] at hsome
        cases hsome
      · rw [hf, hrec]
      · rw [hmove] at herror
        cases herror
  · intro hown n hn
    exact destination_of_completed hn hown
  · intro m hbody hflows hlen hne
    obtain ⟨r, hrun, hexp, hrec, -, -, -⟩ := h.run_of_flows hdir hmade hbody hflows
    rw [hrun]
    have hsome : r.expected.filter (· != r.received) = some m := by
      simp [hexp, hrec, hlen, hne]
    have hfault : r.fault? j = some (Reception.lengthFault m r.received) := by
      rw [Reception.fault?, hsome]
    rcases r.finish_cases j with ⟨e, s₁, hsome', hf, -⟩ | ⟨hnone, -⟩
    · obtain rfl := Option.some.inj (hfault.symm.trans hsome')
      rw [hf, Reception.lengthFault, hrec]
    · rw [hfault] at hnone
      cases hnone
  · intro e
    exact h.run_of_fail hdir
  · intro pre e post hbody
    exact h.run_of_first_fail hdir hmade hbody
  · intro pre kept e post hbody
    exact h.run_of_first_unwritten hdir hmade hbody
  · intro action e hbody hflows hlen
    exact h.run_of_unclosed hdir hmade hbody hflows hlen

/-- A body in three pieces, one of them empty, while somebody writes beside the destination. -/
def piecemeal : Response :=
  { length := some 3,
    steps := [.chunk [1], .wait 400, .change (.write "d/y" 0o644 [7]), .wait 600, .chunk [],
      .chunk [2, 3]] }

def linkedJob : Job := ⟨⟨[], "/"⟩, "u", "d/x", ⟨1, 0⟩⟩

def linkedStart : Transfer :=
  .start ⟨[(["d"], .dir), (["x", "d"], .link "elsewhere")], []⟩ {} false

/-- A link at the destination gives way to the whole body. -/
theorem piecemeal_replaces_link :
    Undisturbed linkedJob piecemeal linkedStart ∧
      (run linkedJob piecemeal linkedStart).2 = .completed 3 ∧
      ∃ d name, (treeWithout linkedJob linkedStart piecemeal.steps).locateParent [] "d/x" =
          .ok (d, .name name false) ∧
        (run linkedJob piecemeal linkedStart).1.tree.get? (name :: d) =
          some (.file 0o755 [1, 2, 3]) := by
  have hcalm : Undisturbed linkedJob piecemeal linkedStart :=
    ⟨rfl, rfl, rfl, rfl, by decide, by decide, by decide, by decide, trivial⟩
  have hmade : Staged.create linkedStart.tree linkedJob.workplace "d" =
      .ok (linkedStart.tree.add [".tmp0000000000", "d"] (.file 0o755 []),
        ⟨"d/.tmp0000000000", [".tmp0000000000", "d"]⟩) :=
    toOption_eq_some_iff.1 (by decide +kernel)
  obtain ⟨hiff, hdest, -⟩ := completes_iff_whole hcalm (by decide +kernel) hmade
  have hmove : ∃ t', Staged.commit ⟨"d/.tmp0000000000", [".tmp0000000000", "d"]⟩
      (Staged.absorbAll ⟨"d/.tmp0000000000", [".tmp0000000000", "d"]⟩ []
        (linkedStart.tree.add [".tmp0000000000", "d"] (.file 0o755 [])) piecemeal.steps)
      linkedJob.workplace "d/x" = .ok t' :=
    ⟨⟨[(["d"], .dir), (["y", "d"], .file 0o644 [7]), (["x", "d"], .file 0o755 [1, 2, 3])], []⟩,
      toOption_eq_some_iff.1 (by decide +kernel)⟩
  have hdone : (run linkedJob piecemeal linkedStart).2 = .completed 3 :=
    (hiff hmove 3).2
      ⟨rfl, ⟨by simp [piecemeal], by simp [piecemeal]⟩, by decide, by decide, by decide⟩
  obtain ⟨d, name, hloc, -, hget, -⟩ := hdest (by decide +kernel) 3 hdone
  exact ⟨hcalm, hdone, d, name, hloc, hget⟩

end Download

end ServerLauncher
