import ServerLauncher.Acquire
import ServerLauncher.Proofs.Completion
import ServerLauncher.Proofs.NoTrace

/-!
Many calls for servers, one after another. Each tag has an entry of its own in the server directory,
which holds the whole body of the last call that has downloaded it, whatever other calls have done
before or after. Beside that the calls make directories on the way to the server directory, and
leave nothing.
-/

namespace ServerLauncher

open ServerLauncher.Tree

/-- What a call brings along: a tag, a way to try a file, the answers of the release store, and when
the caller cancels. -/
structure Call where
  tag : Tag
  probe : Probe
  respond : String → Response
  cancellation : Cancellation := {}
  paced : Bool := false

/-- Neither a trial nor a response changes any file. -/
structure Call.IsQuiet (c : Call) : Prop where
  probe : ∀ t path, (c.probe t path).tree = t
  respond : ∀ url, Response.changes (c.respond url).steps = []

/-- The tree, and for each tag the body of the last call that has downloaded it. -/
structure History where
  tree : Tree
  last : Tag → Option Bytes

namespace Acquirer

/-- The name that a server for a tag is installed under. -/
def fileName (a : Acquirer) (tag : Tag) : String :=
  Release.fileName a.config.artifact tag a.extension

/-- One call, on the tree that the calls before it have left. -/
def call (a : Acquirer) (root : String) (t : Tree) (c : Call) : Report :=
  a.ensure c.probe c.respond root c.tag (.start t c.cancellation c.paced)

/-- The body that a call has downloaded, if it answers so. -/
def body? (a : Acquirer) (c : Call) (r : Report) : Option Bytes :=
  match r.result, a.url c.tag with
  | .ok (.downloaded _), .ok url => some (Response.content (c.respond url).steps)
  | _, _ => none

def after (a : Acquirer) (root : String) (h : History) (c : Call) : History :=
  let r := a.call root h.tree c
  { tree := r.transfer.tree,
    last := fun tag => if tag.text = c.tag.text then (a.body? c r).or (h.last tag) else h.last tag }

/-- All calls in their order. -/
def history (a : Acquirer) (root : String) (t : Tree) (cs : List Call) : History :=
  cs.foldl (a.after root) ⟨t, fun _ => none⟩

/-- The tree after nothing but the directories of the calls have been made. -/
def resolved (a : Acquirer) (root : String) (t : Tree) (cs : List Call) : Tree :=
  cs.foldl (fun t c => (a.destination t root c.tag).1) t

variable {a : Acquirer} {root : String} {t u : Tree} {c : Call} {tag : Tag}

theorem mem_fileName (a : Acquirer) (tag : Tag) : '-' ∈ (a.fileName tag).toList := by
  simp [fileName, Release.fileName]

theorem text_eq_of_fileName_eq {tag' : Tag} (h : a.fileName tag = a.fileName tag') :
    tag.text = tag'.text := by
  have hlist := congrArg String.toList h
  simp only [fileName, Release.fileName, String.toList_append, List.append_assoc,
    List.append_cancel_left_eq, List.append_cancel_right_eq] at hlist
  exact String.toList_inj.1 hlist

theorem no_slash_tag (tag : Tag) : '/' ∉ tag.text.toList := fun hmem =>
  absurd (tag.passes.2.2 _ hmem).1 (by decide)

theorem no_slash_extension (a : Acquirer) : '/' ∉ a.extension.toList := by
  unfold extension
  cases a.host with
  | none => decide
  | some os => cases os <;> decide

theorem isName_fileName (hartifact : '/' ∉ a.config.artifact.toList) (tag : Tag) :
    IsName (a.fileName tag) where
  slash := by
    have htag := no_slash_tag tag
    have hext := no_slash_extension a
    simp [fileName, Release.fileName, hartifact, htag, hext]
  ne_empty h := by simpa [h] using mem_fileName a tag
  ne_dot h := by
    have := mem_fileName a tag
    rw [h] at this
    exact absurd this (by decide)
  ne_dots h := by
    have := mem_fileName a tag
    rw [h] at this
    exact absurd this (by decide)

theorem destination_fst (a : Acquirer) (t : Tree) (root : String) (tag : Tag) :
    (a.destination t root tag).1 = (t.makeDirs a.workplace.key (Release.serverDir root)).1 :=
  Release.destination_fst

theorem destination_eq_ok {path : String} (h : (a.destination t root tag).2 = .ok path) :
    (t.makeDirs a.workplace.key (Release.serverDir root)).2 = none ∧
      path = FilePath.join (Release.serverDir root) (a.fileName tag) :=
  Release.destination_eq_ok_iff.1 h

theorem locateParent_fileName (hartifact : '/' ∉ a.config.artifact.toList) {d d' : Key}
    {name : String} {slash : Bool}
    (hd : t.directoryAt a.workplace.key (Release.serverDir root) = some d)
    (hl : t.locateParent a.workplace.key
      (FilePath.join (Release.serverDir root) (a.fileName tag)) = .ok (d', .name name slash)) :
    d' = d ∧ name = a.fileName tag := by
  obtain ⟨hlast, hdir⟩ := locateParent_join (isName_fileName hartifact tag) hl
  rw [hd] at hdir
  exact ⟨(Option.some.inj hdir).symm, (LastStep.name.inj hlast).1⟩

/-- A download that nobody else disturbs leaves the tree as it is, or it puts the whole body in the
place of the file or link that the path names. -/
theorem fetch_cases (a : Acquirer) {respond : String → Response}
    (hquiet : ∀ url, Response.changes (respond url).steps = []) (tag : Tag) (path : String)
    (s : Transfer) :
    ((∀ p, (a.fetch respond tag path s).result ≠ .ok (.downloaded p)) ∧
        (a.fetch respond tag path s).transfer.tree = s.tree) ∨
      ∃ url d name, a.url tag = .ok url ∧
        (a.fetch respond tag path s).result = .ok (.downloaded path) ∧
        s.tree.locateParent a.workplace.key path = .ok (d, .name name false) ∧
        s.tree.isDir (name :: d) = false ∧
        (a.fetch respond tag path s).transfer.tree.get? (name :: d) =
          some (.file 0o755 (Response.content (respond url).steps)) ∧
        (a.fetch respond tag path s).transfer.tree.erase (name :: d) =
          s.tree.erase (name :: d) := by
  rw [fetch_def]
  cases hurl : a.url tag with
  | error e => exact Or.inl ⟨by simp, rfl⟩
  | ok url =>
    dsimp only
    have hsame : ∀ j, Download.treeWithout j (s.report a.title) (respond url).steps = s.tree := by
      intro j
      rw [Download.treeWithout, hquiet]
      rfl
    generalize hj : Download.Job.mk a.workplace url path a.config.stallTimeout = j
    cases hrun : Download.run j (respond url) (s.report a.title) with
    | mk s' ending =>
      cases ending with
      | completed n =>
        have hdone : (Download.run j (respond url) (s.report a.title)).2 = .completed n := by
          rw [hrun]
        obtain ⟨d, name, hloc, hdir, hget, herase⟩ :=
          Download.destination_of_completed hdone (by simp [hquiet])
        rw [hsame, ← hj] at hloc
        rw [hrun] at hget herase
        rw [hsame] at hdir herase
        exact Or.inr ⟨url, d, name, rfl, rfl, hloc, hdir, hget, herase⟩
      | cancelled =>
        have htree := Download.tree_eq_of_no_changes (hquiet url) hrun (by simp)
        exact Or.inl ⟨by simp [conclude], htree⟩
      | failed e =>
        have htree := Download.tree_eq_of_no_changes (hquiet url) hrun (by simp)
        exact Or.inl ⟨by simp [conclude], htree⟩

/-- A call leaves the tree as the server directory has been made in it, or it puts a whole body in
the place of the file or link that the path of the tag names. -/
theorem call_cases (a : Acquirer) (root : String) (t : Tree) (hc : c.IsQuiet) :
    (a.body? c (a.call root t c) = none ∧
        (a.call root t c).transfer.tree = (a.destination t root c.tag).1) ∨
      ∃ path body d name, (a.destination t root c.tag).2 = .ok path ∧
        a.body? c (a.call root t c) = some body ∧
        (a.destination t root c.tag).1.locateParent a.workplace.key path =
          .ok (d, .name name false) ∧
        (a.destination t root c.tag).1.isDir (name :: d) = false ∧
        (a.call root t c).transfer.tree.get? (name :: d) = some (.file 0o755 body) ∧
        (a.call root t c).transfer.tree.erase (name :: d) =
          (a.destination t root c.tag).1.erase (name :: d) := by
  rw [call, ensure_def]
  generalize hdest : a.destination (Transfer.start t c.cancellation c.paced).tree root c.tag = made
  have hdest' : a.destination t root c.tag = made := hdest
  rw [hdest']
  obtain ⟨t', result⟩ := made
  cases result with
  | error e => exact Or.inl ⟨rfl, rfl⟩
  | ok path =>
    dsimp only
    generalize hs : afterTrial (Transfer.start t c.cancellation c.paced) (c.probe t' path) = s
    have htree : s.tree = t' := by
      rw [← hs]
      exact hc.probe t' path
    split
    · exact Or.inl ⟨rfl, htree⟩
    · rw [← htree]
      rcases fetch_cases a hc.respond c.tag path s with
        ⟨hnone, hsame⟩ | ⟨url, d, name, hurl, hresult, hloc, hdir, hget, herase⟩
      · refine Or.inl ⟨?_, hsame⟩
        unfold body?
        split
        · rename_i p url hresult _
          exact absurd hresult (hnone p)
        · rfl
      · refine Or.inr ⟨path, _, d, name, rfl, ?_, hloc, hdir, hget, herase⟩
        simp only [body?, hresult, hurl]

/-- The tree of a history is a tree `b`, in which the server directory is made, with the last bodies
in the entries of their tags. -/
structure Installed (a : Acquirer) (root : String) (d : Key) (b : Tree) (h : History) : Prop where
  isDir : b.pathIsDir a.workplace.key (Release.serverDir root) = true
  directory : b.directoryAt a.workplace.key (Release.serverDir root) = some d
  sealed : h.tree.sealed = b.sealed
  entry : ∀ tag, h.tree.get? (a.fileName tag :: d) =
    ((h.last tag).map fun body => .file 0o755 body).or (b.get? (a.fileName tag :: d))
  other : ∀ k, (∀ tag, k ≠ a.fileName tag :: d) → h.tree.get? k = b.get? k

/-- Either nothing has been downloaded, or it is installed. -/
def Agrees (a : Acquirer) (root : String) (b : Tree) (h : History) : Prop :=
  (h.tree = b ∧ ∀ tag, h.last tag = none) ∨ ∃ d, a.Installed root d b h

variable {b : Tree} {h : History} {d : Key} {cs : List Call}

theorem Installed.patched (hi : a.Installed root d b h) : Patched b h.tree where
  sealed := hi.sealed
  entry k := by
    by_cases hk : ∃ tag, k = a.fileName tag :: d
    · obtain ⟨tag, rfl⟩ := hk
      rw [hi.entry tag]
      cases h.last tag with
      | none => exact Or.inl rfl
      | some body => exact Or.inr ⟨_, _, rfl⟩
    · exact Or.inl (hi.other k fun tag hkt => hk ⟨tag, hkt⟩)

theorem Installed.install (hi : a.Installed root d b h) {tag' : Tag} {body : Bytes}
    {h' : History}
    (hget : h'.tree.get? (a.fileName tag' :: d) = some (.file 0o755 body))
    (herase : h'.tree.erase (a.fileName tag' :: d) = h.tree.erase (a.fileName tag' :: d))
    (hlast : ∀ tag, h'.last tag =
      if tag.text = tag'.text then (some body).or (h.last tag) else h.last tag) :
    a.Installed root d b h' := by
  have hsame : ∀ k, k ≠ a.fileName tag' :: d → h'.tree.get? k = h.tree.get? k := by
    intro k hk
    rw [← get?_erase_of_ne hk h'.tree, herase, get?_erase_of_ne hk]
  refine ⟨hi.isDir, hi.directory, ?_, ?_, ?_⟩
  · have := congrArg Tree.sealed herase
    exact this.trans hi.sealed
  · intro tag
    by_cases htag : tag.text = tag'.text
    · have hname : a.fileName tag = a.fileName tag' := by
        rw [fileName, fileName, Release.fileName, Release.fileName, htag]
      rw [hlast, if_pos htag, hname, hget]
      rfl
    · have hne : a.fileName tag :: d ≠ a.fileName tag' :: d := fun he =>
        htag (text_eq_of_fileName_eq (List.cons.inj he).1)
      rw [hlast, if_neg htag, hsame _ hne, hi.entry]
  · intro k hk
    rw [hsame k (hk tag'), hi.other k hk]

/-- The directories of one call are made in the tree of the history as they are made in `b`. -/
theorem Agrees.destination (h₀ : a.Agrees root b h) (tag : Tag) :
    a.Agrees root (a.destination b root tag).1
        { h with tree := (a.destination h.tree root tag).1 } ∧
      ∀ path, (a.destination h.tree root tag).2 = .ok path →
        ∃ d, a.Installed root d (a.destination b root tag).1
            { h with tree := (a.destination h.tree root tag).1 } ∧
          (a.destination h.tree root tag).1.directoryAt a.workplace.key
            (Release.serverDir root) = some d := by
  have hne := Release.serverDir_ne_empty root
  rw [destination_fst, destination_fst]
  rcases h₀ with ⟨rfl, hlast⟩ | ⟨d, hi⟩
  · refine ⟨Or.inl ⟨rfl, hlast⟩, ?_⟩
    intro path hpath
    have hdir := pathIsDir_of_makeDirs (destination_eq_ok hpath).1 hne
    obtain ⟨d, hd⟩ := directoryAt_of_pathIsDir hdir
    exact ⟨d, ⟨hdir, hd, rfl, fun tag => by simp [hlast], fun _ _ => rfl⟩, hd⟩
  · obtain ⟨hself, hnone⟩ := hi.patched.makeDirs hi.isDir hne
    rw [makeDirs_of_pathIsDir hi.isDir, hself]
    refine ⟨Or.inr ⟨d, hi⟩, fun path hpath => ⟨d, hi, ?_⟩⟩
    obtain ⟨d', hd'⟩ := directoryAt_of_pathIsDir (hnone (destination_eq_ok hpath).1)
    rcases hi.patched.directoryAt_cases hi.directory with hd | hd
    · exact hd
    · rw [hd] at hd'
      cases hd'

theorem Agrees.after (hartifact : '/' ∉ a.config.artifact.toList) (hc : c.IsQuiet)
    (h₀ : a.Agrees root b h) :
    a.Agrees root (a.destination b root c.tag).1 (a.after root h c) := by
  obtain ⟨hagrees, hok⟩ := h₀.destination c.tag
  rcases a.call_cases root h.tree hc with
    ⟨hnone, htree⟩ | ⟨path, body, d', name, hpath, hbody, hloc, -, hget, herase⟩
  · have hafter : a.after root h c =
        { h with tree := (a.destination h.tree root c.tag).1 } := by
      have hlast : ∀ tag, (a.after root h c).last tag = h.last tag := by
        intro tag
        simp [Acquirer.after, hnone]
      rw [← htree]
      exact congrArg (History.mk _) (funext hlast)
    rw [hafter]
    exact hagrees
  · obtain ⟨d, hi, hd⟩ := hok path hpath
    obtain ⟨-, rfl⟩ := destination_eq_ok hpath
    obtain ⟨rfl, rfl⟩ := locateParent_fileName hartifact hd hloc
    refine Or.inr ⟨d', hi.install hget herase fun tag => ?_⟩
    simp only [Acquirer.after, hbody]

theorem agrees_history (hartifact : '/' ∉ a.config.artifact.toList)
    (hquiet : ∀ c ∈ cs, c.IsQuiet) :
    a.Agrees root (a.resolved root t cs) (a.history root t cs) := by
  have hrun : ∀ (b : Tree) (h : History), a.Agrees root b h →
      a.Agrees root (cs.foldl (fun t c => (a.destination t root c.tag).1) b)
        (cs.foldl (a.after root) h) := by
    induction cs with
    | nil => exact fun b h h₀ => h₀
    | cons c cs ih =>
      intro b h h₀
      exact ih (fun c' hc' => hquiet c' (List.mem_cons_of_mem _ hc')) _ _
        (h₀.after hartifact (hquiet c (List.mem_cons_self ..)))
  exact hrun t ⟨t, fun _ => none⟩ (Or.inl ⟨rfl, fun _ => rfl⟩)

theorem grown_destination (a : Acquirer) (root : String) (t : Tree) (tag : Tag) :
    Grown (steps (Release.serverDir root)) t (a.destination t root tag).1 := by
  rw [destination_fst]
  exact (Grown.makeDirs t _ _).mono List.filter_sublist.subset

/-- What the calls make on the way to the server directory. -/
theorem grown_resolved (a : Acquirer) (root : String) (t : Tree) (cs : List Call) :
    Grown (steps (Release.serverDir root)) t (a.resolved root t cs) := by
  unfold resolved
  induction cs generalizing t with
  | nil => exact .refl _ _
  | cons c cs ih => exact (grown_destination a root t c.tag).trans (ih _)

theorem Agrees.entry (h₀ : a.Agrees root b h)
    (hd : ∀ d', b.directoryAt a.workplace.key (Release.serverDir root) = some d' → d' = d)
    (tag : Tag) :
    h.tree.get? (a.fileName tag :: d) =
      ((h.last tag).map fun body => .file 0o755 body).or (b.get? (a.fileName tag :: d)) := by
  rcases h₀ with ⟨rfl, hlast⟩ | ⟨d', hi⟩
  · simp [hlast]
  · obtain rfl := hd d' hi.directory
    exact hi.entry tag

/-- The entry of a tag for which nothing has been downloaded is the first one, unless a directory
has been made in its place. -/
theorem Agrees.tag_cases (h₀ : a.Agrees root b h)
    (hgrown : Grown (steps (Release.serverDir root)) t b)
    (hd : b.directoryAt a.workplace.key (Release.serverDir root) = some d) (tag : Tag) :
    match h.last tag with
    | some body => h.tree.get? (a.fileName tag :: d) = some (.file 0o755 body)
    | none =>
      h.tree.get? (a.fileName tag :: d) = t.get? (a.fileName tag :: d) ∨
        t.get? (a.fileName tag :: d) = none ∧
          h.tree.get? (a.fileName tag :: d) = some .dir ∧
          a.fileName tag ∈ steps (Release.serverDir root) := by
  have hentry := h₀.entry (fun d' hd' => Option.some.inj (hd'.symm.trans hd)) tag
  cases hlast : h.last tag with
  | some body =>
    rw [hentry, hlast]
    rfl
  | none =>
    rw [hentry, hlast]
    rcases hgrown.entry (a.fileName tag :: d) with hsame | ⟨ht, hdir, name, hname, hhead⟩
    · exact Or.inl hsame
    · obtain rfl := Option.some.inj hhead
      exact Or.inr ⟨ht, hdir, hname⟩

theorem Agrees.other_tag (h₀ : a.Agrees root b h) (hartifact : '/' ∉ a.config.artifact.toList)
    (hc : c.IsQuiet) (htag : tag.text ≠ c.tag.text)
    (hd : (a.destination b root c.tag).1.directoryAt a.workplace.key (Release.serverDir root) =
      some d) :
    (a.after root h c).tree.get? (a.fileName tag :: d) = h.tree.get? (a.fileName tag :: d) ∨
      h.tree.get? (a.fileName tag :: d) = none ∧
        (a.after root h c).tree.get? (a.fileName tag :: d) = some .dir ∧
        a.fileName tag ∈ steps (Release.serverDir root) := by
  have hstep := grown_destination a root b c.tag
  have hlast : (a.after root h c).last tag = h.last tag := if_neg htag
  have hbefore := h₀.entry
    (fun d' hd' => Option.some.inj ((hstep.directoryAt hd').symm.trans hd)) tag
  have hafter := (h₀.after hartifact hc).entry
    (fun d' hd' => Option.some.inj (hd'.symm.trans hd)) tag
  rw [hafter, hlast, hbefore]
  cases h.last tag with
  | some body => exact Or.inl rfl
  | none =>
    rcases hstep.entry (a.fileName tag :: d) with hsame | ⟨hnone, hdir, name, hname, hhead⟩
    · exact Or.inl hsame
    · obtain rfl := Option.some.inj hhead
      exact Or.inr ⟨hnone, hdir, hname⟩

theorem Agrees.leftover (h₀ : a.Agrees root b h)
    (hgrown : Grown (steps (Release.serverDir root)) t b) {k : Key} {e : Entry}
    (hk : h.tree.get? k = some e) :
    t.get? k = some e ∨
      (t.get? k = none ∧ e = .dir ∧
        ∃ name ∈ steps (Release.serverDir root), k.head? = some name) ∨
      ∃ d tag body,
        b.directoryAt a.workplace.key (Release.serverDir root) = some d ∧
        k = a.fileName tag :: d ∧ h.last tag = some body ∧ e = .file 0o755 body := by
  have hbase : b.get? k = some e → t.get? k = some e ∨
      t.get? k = none ∧ e = .dir ∧
        ∃ name ∈ steps (Release.serverDir root), k.head? = some name := by
    intro he
    rcases hgrown.entry k with hsame | ⟨hnone, hdir, hname⟩
    · exact Or.inl (hsame.symm.trans he)
    · exact Or.inr ⟨hnone, Option.some.inj (he.symm.trans hdir), hname⟩
  rcases h₀ with ⟨htree, -⟩ | ⟨d, hi⟩
  · rw [htree] at hk
    exact (hbase hk).imp_right Or.inl
  · by_cases hkey : ∃ tag, k = a.fileName tag :: d
    · obtain ⟨tag, rfl⟩ := hkey
      rw [hi.entry tag] at hk
      cases hlast : h.last tag with
      | none =>
        rw [hlast] at hk
        exact (hbase hk).imp_right Or.inl
      | some body =>
        rw [hlast] at hk
        exact Or.inr (Or.inr ⟨d, tag, body, hi.directory, rfl, hlast, (Option.some.inj hk).symm⟩)
    · rw [hi.other k fun tag hkt => hkey ⟨tag, hkt⟩] at hk
      exact (hbase hk).imp_right Or.inl

theorem Agrees.locateParent (h₀ : a.Agrees root b h) (hartifact : '/' ∉ a.config.artifact.toList)
    {last : LastStep}
    (hl : h.tree.locateParent a.workplace.key
      (FilePath.join (Release.serverDir root) (a.fileName tag)) = .ok (d, last)) :
    last = .name (a.fileName tag) false ∧
      b.directoryAt a.workplace.key (Release.serverDir root) = some d := by
  obtain ⟨hlast, hd⟩ := locateParent_join (isName_fileName hartifact tag) hl
  refine ⟨hlast, ?_⟩
  rcases h₀ with ⟨rfl, -⟩ | ⟨d', hi⟩
  · exact hd
  · rcases hi.patched.directoryAt_cases hi.directory with hsame | hnone
    · rw [hd] at hsame
      rw [hi.directory, Option.some.inj hsame]
    · rw [hnone] at hd
      cases hd

theorem history_concat (a : Acquirer) (root : String) (t : Tree) (cs : List Call) (c : Call) :
    a.history root t (cs ++ [c]) = a.after root (a.history root t cs) c := by
  simp [history, List.foldl_append]

theorem resolved_concat (a : Acquirer) (root : String) (t : Tree) (cs : List Call) (c : Call) :
    a.resolved root t (cs ++ [c]) = (a.destination (a.resolved root t cs) root c.tag).1 := by
  simp [resolved, List.foldl_append]

/-- Whatever calls have been made, the path of a tag leads to its entry, if it leads anywhere, and
the entry holds the whole body of the last call that has downloaded the tag. Without such a call it
is the entry that was there, or a directory on the way to the server directory where nothing was. A
call changes no entry of another tag but for making such a directory, and nothing else is ever left
behind. -/
theorem last_download_stands (hartifact : '/' ∉ a.config.artifact.toList)
    (hquiet : ∀ c ∈ cs, c.IsQuiet) :
    (∀ d tag last,
      (a.history root t cs).tree.locateParent a.workplace.key
          (FilePath.join (Release.serverDir root) (a.fileName tag)) = .ok (d, last) →
        last = .name (a.fileName tag) false ∧
          (a.resolved root t cs).directoryAt a.workplace.key (Release.serverDir root) = some d) ∧
      (∀ d tag,
        (a.resolved root t cs).directoryAt a.workplace.key (Release.serverDir root) = some d →
          match (a.history root t cs).last tag with
          | some body =>
            (a.history root t cs).tree.get? (a.fileName tag :: d) = some (.file 0o755 body)
          | none =>
            (a.history root t cs).tree.get? (a.fileName tag :: d) = t.get? (a.fileName tag :: d) ∨
              t.get? (a.fileName tag :: d) = none ∧
                (a.history root t cs).tree.get? (a.fileName tag :: d) = some .dir ∧
                a.fileName tag ∈ steps (Release.serverDir root)) ∧
      (∀ c d tag, c.IsQuiet → tag.text ≠ c.tag.text →
        (a.resolved root t (cs ++ [c])).directoryAt a.workplace.key (Release.serverDir root) =
          some d →
        (a.history root t (cs ++ [c])).tree.get? (a.fileName tag :: d) =
            (a.history root t cs).tree.get? (a.fileName tag :: d) ∨
          (a.history root t cs).tree.get? (a.fileName tag :: d) = none ∧
            (a.history root t (cs ++ [c])).tree.get? (a.fileName tag :: d) = some .dir ∧
            a.fileName tag ∈ steps (Release.serverDir root)) ∧
      ∀ k e, (a.history root t cs).tree.get? k = some e →
        t.get? k = some e ∨
          (t.get? k = none ∧ e = .dir ∧
            ∃ name ∈ steps (Release.serverDir root), k.head? = some name) ∨
          ∃ d tag body,
            (a.resolved root t cs).directoryAt a.workplace.key (Release.serverDir root) = some d ∧
            k = a.fileName tag :: d ∧ (a.history root t cs).last tag = some body ∧
            e = .file 0o755 body := by
  have hagrees : a.Agrees root (a.resolved root t cs) (a.history root t cs) :=
    agrees_history hartifact hquiet
  have hgrown := a.grown_resolved root t cs
  refine ⟨?_, ?_, ?_, ?_⟩
  · intro d tag last hl
    exact hagrees.locateParent hartifact hl
  · intro d tag hd
    exact hagrees.tag_cases hgrown hd tag
  · intro c d tag hc htag hd
    rw [resolved_concat] at hd
    rw [history_concat]
    exact hagrees.other_tag hartifact hc htag hd
  · intro k e hk
    exact hagrees.leftover hgrown hk

def plain : Acquirer := { config := {}, host := some .linux, workplace := ⟨[], "/"⟩ }

def firstTag : Tag := ⟨"v1", by decide +kernel⟩

def secondTag : Tag := ⟨"v2", by decide +kernel⟩

/-- One tag is downloaded, another breaks off, and the first is cancelled when wanted again. -/
def mixedCalls : List Call :=
  [{ tag := firstTag, probe := .always .missing,
     respond := fun _ => { length := some 3, steps := [.chunk [1], .chunk [2, 3]] } },
   { tag := secondTag, probe := .always .missing,
     respond := fun _ => { steps := [.chunk [4], .fail (.body "gone")] } },
   { tag := firstTag, probe := .always .missing,
     respond := fun _ => { steps := [.chunk [5], .cancel, .chunk [6]] } }]

theorem quiet_mixedCalls : ∀ c ∈ mixedCalls, c.IsQuiet := by
  intro c hc
  rcases List.mem_cons.1 hc with rfl | hc
  · exact ⟨fun _ _ => rfl, fun _ => rfl⟩
  rcases List.mem_cons.1 hc with rfl | hc
  · exact ⟨fun _ _ => rfl, fun _ => rfl⟩
  obtain rfl := List.mem_singleton.1 hc
  exact ⟨fun _ _ => rfl, fun _ => rfl⟩

theorem resolved_mixedCalls :
    (plain.resolved "root" ⟨[], []⟩ mixedCalls).directoryAt plain.workplace.key
      (Release.serverDir "root") = some ["server", "root"] := by
  decide +kernel

theorem last_mixedCalls :
    (plain.history "root" ⟨[], []⟩ mixedCalls).last firstTag = some [1, 2, 3] ∧
      (plain.history "root" ⟨[], []⟩ mixedCalls).last secondTag = none := by
  decide +kernel

theorem first_download_stands :
    '/' ∉ plain.config.artifact.toList ∧ (∀ c ∈ mixedCalls, c.IsQuiet) ∧
      (plain.history "root" ⟨[], []⟩ mixedCalls).tree.get?
          (plain.fileName firstTag :: ["server", "root"]) = some (.file 0o755 [1, 2, 3]) ∧
      (plain.history "root" ⟨[], []⟩ mixedCalls).tree.get?
          (plain.fileName secondTag :: ["server", "root"]) = none := by
  have hartifact : '/' ∉ plain.config.artifact.toList := by decide +kernel
  have hstep : plain.fileName secondTag ∉ steps (Release.serverDir "root") := by decide +kernel
  obtain ⟨-, hentry, -, -⟩ :=
    @last_download_stands plain "root" ⟨[], []⟩ mixedCalls hartifact quiet_mixedCalls
  have hdir := resolved_mixedCalls
  obtain ⟨hfirst, hsecond⟩ := last_mixedCalls
  refine ⟨hartifact, quiet_mixedCalls, ?_⟩
  -- The run is opaque from here on, so that no step below evaluates it.
  generalize plain.resolved "root" ⟨[], []⟩ mixedCalls = r at hentry hdir
  generalize plain.history "root" ⟨[], []⟩ mixedCalls = h at hentry hfirst hsecond ⊢
  have hfile := hentry _ firstTag hdir
  have hnone := hentry _ secondTag hdir
  rw [hfirst] at hfile
  rw [hsecond] at hnone
  refine ⟨hfile, ?_⟩
  rcases hnone with hsame | ⟨-, -, hmem⟩
  · exact hsame
  · exact absurd hmem hstep

/-- A root that goes through the entry of the second tag, and out of it again. -/
def loopRoot : String := "server/prosemd-lsp-v2/../.."

def cancelledCall : Call :=
  { tag := firstTag, probe := .always .missing, respond := fun _ => {},
    cancellation := { before := true } }

/-- A call for one tag makes an entry of another, although it is cancelled at once. -/
theorem directory_made_for_other_tag :
    cancelledCall.IsQuiet ∧ secondTag.text ≠ cancelledCall.tag.text ∧
      (plain.resolved loopRoot ⟨[], []⟩ [cancelledCall]).directoryAt plain.workplace.key
          (Release.serverDir loopRoot) = some ["server"] ∧
      (plain.history loopRoot ⟨[], []⟩ [cancelledCall]).last secondTag = none ∧
      Tree.get? ⟨[], []⟩ (plain.fileName secondTag :: ["server"]) = none ∧
      (plain.history loopRoot ⟨[], []⟩ [cancelledCall]).tree.get?
          (plain.fileName secondTag :: ["server"]) = some .dir :=
  ⟨⟨fun _ _ => rfl, fun _ => rfl⟩, by decide +kernel⟩

end Acquirer

end ServerLauncher
