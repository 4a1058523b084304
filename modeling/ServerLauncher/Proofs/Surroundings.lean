import ServerLauncher.Proofs.Course

/-!
The tree around a staged file. While nobody else uses the name of the file, the tree holds at any
time what the changes from outside have made of the tree that the download has found, and beside
that the staged file with the chunks that have arrived.
-/

namespace ServerLauncher

namespace Staged

open ServerLauncher.Tree

variable {t u : Tree} (cwd : Key) {st : Staged} {name : String} {dir : Key} {content : Bytes}
  {ss : List Step}

theorem beside_absorb (h : Beside name dir mode content t u) (hst : st.Named name dir) {s : Step}
    (hs : ∀ c, s = .change c → name ∉ c.names) :
    Beside name dir mode (content ++ Response.content [s]) (st.absorb cwd t s)
      (u.applyAll cwd (Response.changes [s])) := by
  have quiet {v w : Tree} (hvw : Beside name dir mode content v w) :
      Beside name dir mode (content ++ []) v w := by
    rw [List.append_nil]
    exact hvw
  cases s with
  | chunk bytes =>
    have hcontent : Response.content [.chunk bytes] = bytes := List.append_nil bytes
    rw [hcontent]
    exact beside_write h hst bytes
  | unwritten kept e =>
    have hcontent : Response.content [.unwritten kept e] = kept := List.append_nil kept
    rw [hcontent]
    exact beside_write h hst kept
  | change c => exact quiet (h.apply hst.isName cwd (hs c rfl))
  | fail e => exact quiet h
  | wait millis => exact quiet h
  | hang => exact quiet h
  | cancel => exact quiet h

theorem beside_absorbAll (h : Beside name dir mode content t u) (hst : st.Named name dir)
    (hss : ∀ c ∈ Response.changes ss, name ∉ c.names) :
    Beside name dir mode (content ++ Response.content ss) (st.absorbAll cwd t ss)
      (u.applyAll cwd (Response.changes ss)) := by
  induction ss generalizing t u content with
  | nil =>
    have hcontent : content ++ Response.content [] = content := List.append_nil content
    rw [hcontent]
    exact h
  | cons s rest ih =>
    have hchanges := Response.changes_append [s] rest
    have hcontent := Response.content_append [s] rest
    rw [List.singleton_append] at hchanges hcontent
    rw [hchanges] at hss
    have hs : ∀ c, s = .change c → name ∉ c.names := by
      rintro c rfl
      exact hss c (List.mem_append_left _ (List.mem_singleton_self c))
    have hrest := ih (beside_absorb cwd h hst hs) fun c hc => hss c (List.mem_append_right _ hc)
    rw [hcontent, hchanges, applyAll_append, ← List.append_assoc]
    exact hrest

end Staged

namespace Download

open ServerLauncher.Tree

/-- Neither the destination nor a change from outside mentions the name of the staged file. -/
structure OwnName (j : Job) (response : Response) (t : Tree) : Prop where
  destination : Staged.freshName t ∉ steps j.destination
  changes : ∀ c ∈ Response.changes response.steps, Staged.freshName t ∉ c.names

/-- The tree that the changes from outside make without the download. -/
def treeWithout (j : Job) (s : Transfer) (ss : List Step) : Tree :=
  s.tree.applyAll j.workplace.key (Response.changes ss)

variable {j : Job} {response : Response} {s : Transfer} {r : Reception} {pre : List Step}

/-- Everything but the watch, the events and the tracker while the body is being received. -/
theorem Midway.spec (h : Midway j response s pre r) :
    r.transfer.requests = s.requests ++ [j.url] ∧ r.expected = response.length ∧
      r.received = (Response.content pre).length ∧ Response.Flows pre ∧
      r.closing = response.closing := by
  obtain ⟨r₀, hopen, hcourse⟩ := h
  obtain ⟨-, -, -, -, -, hreq, hexp, hrec, -, hclosing⟩ := opening_go hopen
  obtain ⟨-, hreq', -, hexp', hrec', hflows, hclosing'⟩ := hcourse.spec
  exact ⟨hreq'.trans hreq, hexp'.trans hexp, by rw [hrec', hrec, Nat.zero_add], hflows,
    hclosing'.trans hclosing⟩

/-- A staged file beside the tree it was made in stays so through the first steps of a response. -/
theorem beside_through {st : Staged} {t : Tree} {dir : Key} (hpre : pre <+: response.steps)
    (hown : ∀ c ∈ Response.changes response.steps, Staged.freshName s.tree ∉ c.names)
    (hst : st.Named (Staged.freshName s.tree) dir)
    (hbeside : Beside (Staged.freshName s.tree) dir Staged.mode [] t s.tree) :
    Beside (Staged.freshName s.tree) dir Staged.mode (Response.content pre)
      (st.absorbAll j.workplace.key t pre) (treeWithout j s pre) := by
  have hpre' : ∀ c ∈ Response.changes pre, Staged.freshName s.tree ∉ c.names := by
    obtain ⟨post, hpost⟩ := hpre
    intro c hc
    apply hown c
    rw [← hpost, Response.changes_append]
    exact List.mem_append_left _ hc
  exact Staged.beside_absorbAll j.workplace.key hbeside hst hpre'

/-- The staged file lies in the directory of the destination, beside a tree that knows nothing of
the download. -/
theorem Midway.beside (h : Midway j response s pre r) (hpre : pre <+: response.steps)
    (hown : ∀ c ∈ Response.changes response.steps, Staged.freshName s.tree ∉ c.names) :
    ∃ path dir, FilePath.parent? j.destination = some path ∧
      s.tree.directoryAt j.workplace.key path = some dir ∧
      r.staged.Named (Staged.freshName s.tree) dir ∧
      Beside (Staged.freshName s.tree) dir Staged.mode (Response.content pre) r.transfer.tree
        (treeWithout j s pre) := by
  obtain ⟨r₀, hopen, hcourse⟩ := h
  obtain ⟨path, hpath, -, -, hmade, -⟩ := opening_go hopen
  obtain ⟨dir, hdir, hst, -, hbeside⟩ := Staged.create_eq_ok hmade
  obtain ⟨htree, -, hstaged, -⟩ := hcourse.spec
  refine ⟨path, dir, hpath, hdir, hstaged ▸ hst, ?_⟩
  rw [htree]
  exact beside_through hpre hown hst hbeside

/-- The tree around the staged file after the steps that are taken. -/
theorem beside_taken (hopen : opening j response s = .go r)
    (hown : ∀ c ∈ Response.changes response.steps, Staged.freshName s.tree ∉ c.names) :
    ∃ dir, r.staged.Named (Staged.freshName s.tree) dir ∧
      Beside (Staged.freshName s.tree) dir Staged.mode (Response.content (taken j response s))
        (r.staged.absorbAll j.workplace.key r.transfer.tree (taken j response s))
        (treeWithout j s (taken j response s)) := by
  obtain ⟨path, -, -, -, hmade, -⟩ := opening_go hopen
  obtain ⟨dir, -, hst, -, hbeside⟩ := Staged.create_eq_ok hmade
  have htaken := taken_prefix j response s
  exact ⟨dir, hst, beside_through htaken hown hst hbeside⟩

end Download

end ServerLauncher
