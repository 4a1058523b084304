import ServerLauncher.Proofs.Ascent
import ServerLauncher.Release

/-!
Making the server directory. Whoever makes missing directories at the paths on the way to it, in
whatever order, adds nothing else, and making it with all that is missing above goes as far as one
can get in this way: afterwards nothing more can be made at any of these paths. So it succeeds
exactly if the path leads to a directory already, or can be made to.
-/

namespace ServerLauncher

open FilePath (OnWay)

namespace Tree

variable {t u v : Tree} {cwd : Key} {path up p : String}

/-- There is a place for an entry at a path, and nothing is there. -/
def Free (t : Tree) (cwd : Key) (path : String) (dir : Key) (name : String) : Prop :=
  (∃ slash, t.locateParent cwd path = .ok (dir, .name name slash)) ∧ name.utf8ByteSize ≤ 255 ∧
    t.get? (name :: dir) = none

variable {dir : Key} {name : String}

theorem Free.makeDir (h : t.Free cwd path dir name) :
    t.makeDir cwd path =
      match t.refusal? dir with
      | some e => .error (.os e)
      | none => .ok (t.add (name :: dir) .dir) := by
  obtain ⟨⟨slash, hloc⟩, hsize, hnone⟩ := h
  rw [Tree.makeDir, hloc]
  dsimp only
  rw [if_neg (by omega), if_neg (by rw [hnone]; simp), place, if_neg (by omega)]
  cases t.refusal? dir <;> rfl

theorem free_of_makeDir (h : t.makeDir cwd path = .ok u) :
    ∃ dir name, t.Free cwd path dir name ∧ t.refusal? dir = none ∧
      u = t.add (name :: dir) .dir := by
  obtain ⟨dir, name, slash, hloc, hsize, hnone, rfl⟩ := makeDir_eq_ok h
  have hfree : t.Free cwd path dir name := ⟨⟨slash, hloc⟩, hsize, hnone⟩
  refine ⟨dir, name, hfree, ?_, rfl⟩
  rw [hfree.makeDir] at h
  split at h
  · cases h
  · assumption

theorem Free.mono (h : t.Free cwd path dir name)
    (hkeep : ∀ k e, t.get? k = some e → u.get? k = some e) (hnone : u.get? (name :: dir) = none) :
    u.Free cwd path dir name := by
  obtain ⟨⟨slash, hloc⟩, hsize, -⟩ := h
  obtain ⟨hfault, hlast, hleads⟩ := locateParent_eq_ok_iff.1 hloc
  exact ⟨⟨slash, locateParent_eq_ok_iff.2 ⟨hfault, hlast, hleads.mono hkeep⟩⟩, hsize, hnone⟩

/-- A directory is made, or its making fails, in a free place; else it fails on the way to the
place, or since something is there. -/
theorem makeDir_cases (t : Tree) (cwd : Key) (path : String) :
    (∃ e, t.locateParent cwd path = .error e ∧ t.makeDir cwd path = .error e) ∨
      (∃ dir name, t.Free cwd path dir name) ∨
      ∃ e, t.makeDir cwd path = .error e ∧ e ≠ .os .noEntry := by
  cases hloc : t.locateParent cwd path with
  | error e => exact Or.inl ⟨e, rfl, by rw [makeDir, hloc]⟩
  | ok r =>
    obtain ⟨dir, last⟩ := r
    cases last with
    | dots => exact Or.inr (Or.inr ⟨.os .present, by rw [makeDir, hloc], by decide⟩)
    | root => exact Or.inr (Or.inr ⟨.os .present, by rw [makeDir, hloc], by decide⟩)
    | name name slash =>
      by_cases hsize : 255 < name.utf8ByteSize
      · refine Or.inr (Or.inr ⟨.os .nameTooLong, ?_, by decide⟩)
        rw [makeDir, hloc]
        exact if_pos hsize
      · cases hg : t.get? (name :: dir) with
        | none => exact Or.inr (Or.inl ⟨dir, name, ⟨slash, hloc⟩, by omega, hg⟩)
        | some e =>
          refine Or.inr (Or.inr ⟨.os .present, ?_, by decide⟩)
          rw [makeDir, hloc]
          exact (if_neg hsize).trans (if_pos (by rw [hg]; rfl))

theorem makeDir_of_pathIsDir (h : t.pathIsDir cwd path = true) :
    t.makeDir cwd path = .error (.os .present) := by
  obtain ⟨d, last, hloc, htaken⟩ := locateParent_of_pathIsDir h
  exact makeDir_of_taken hloc htaken

theorem makeDir_empty (t : Tree) (cwd : Key) : t.makeDir cwd "" = .error (.os .noEntry) :=
  rfl

/-- A walk along the path comes to a name that is not there. -/
def IsMissing (t : Tree) (cwd : Key) (path : String) : Prop :=
  t.walk linkLimit (origin cwd path) (steps path ++ [""]) = .error .noEntry

theorem Free.isMissing (h : t.Free cwd path dir name) : t.IsMissing cwd path := by
  obtain ⟨⟨slash, hloc⟩, hsize, hnone⟩ := h
  obtain ⟨-, hlast, hleads⟩ := locateParent_eq_ok_iff.1 hloc
  rcases splitLast_cases path with hroot |
    ⟨dirs, last, idle, hsteps, hne, -, ⟨-, hdots⟩ | ⟨hnot, slash', hname⟩⟩
  · rw [hroot] at hlast
    cases hlast
  · rw [hdots] at hlast
    cases hlast
  · rw [hname] at hlast hleads
    obtain ⟨rfl, -⟩ := LastStep.name.inj hlast
    obtain ⟨m, hm⟩ := hleads.append
    have hidle : ¬IsIdle last := fun hi => hi.elim hne fun he => hnot (Or.inl he)
    rw [IsMissing, hsteps, List.append_assoc, hm, List.cons_append,
      walk_name t m dir hidle fun he => hnot (Or.inr he), if_neg (by omega), hnone]

theorem isMissing_of_locateParent (hfault : pathFault? path = none)
    (h : t.locateParent cwd path = .error (.os .noEntry)) : t.IsMissing cwd path := by
  have hwalk : t.walk linkLimit (origin cwd path) (splitLast path).1 = .error .noEntry := by
    simp only [locateParent, hfault] at h
    split at h
    · cases h
    · rename_i e he
      rw [he, FileError.os.inj (Except.error.inj h)]
  rcases splitLast_cases path with hroot |
    ⟨dirs, last, idle, hsteps, -, -, ⟨-, hdots⟩ | ⟨-, slash, hname⟩⟩
  · rw [hroot, walk_nil] at hwalk
    cases hwalk
  · rw [hdots] at hwalk
    rw [IsMissing, hsteps]
    exact walk_error_append hwalk _
  · rw [hname] at hwalk
    rw [IsMissing, hsteps]
    exact walk_error_append hwalk _

theorem isMissing_of_makeDir (hfault : pathFault? path = none)
    (h : ∀ e, t.makeDir cwd path = .error e → e = .os .noEntry) : t.IsMissing cwd path := by
  rcases t.makeDir_cases cwd path with ⟨e, hloc, hmade⟩ | ⟨dir, name, hfree⟩ | ⟨e, hmade, hne⟩
  · rw [h e hmade] at hloc
    exact isMissing_of_locateParent hfault hloc
  · exact hfree.isMissing
  · exact absurd (h e hmade) hne

theorem IsMissing.makeDir (h : t.IsMissing cwd up) (hup : FilePath.parent? path = some up)
    (hfault : pathFault? path = none) : t.makeDir cwd path = .error (.os .noEntry) := by
  obtain ⟨more, hmore⟩ := walk_splitLast_parent hup
  have hwalk : t.walk linkLimit (origin cwd path) (splitLast path).1 = .error .noEntry := by
    rw [IsMissing, walk_proper] at h
    rw [hmore, ← origin_parent hup]
    exact walk_error_append h more
  have hloc : t.locateParent cwd path = .error (.os .noEntry) := by
    simp only [locateParent, hfault, hwalk]
  rw [Tree.makeDir, hloc]

/-- At no path on the way anything can be made. -/
def Settled (t : Tree) (cwd : Key) (path : String) : Prop :=
  ∀ p, OnWay p path → ∀ u, t.makeDir cwd p ≠ .ok u

theorem settled_empty (t : Tree) (cwd : Key) : t.Settled cwd "" := by
  intro p hp u hu
  rw [hp.eq_of_empty, makeDir_empty] at hu
  cases hu

theorem Settled.of_parent (h : up = "" ∨ t.Settled cwd up) (hup : FilePath.parent? path = some up)
    (hlast : ∀ u, t.makeDir cwd path ≠ .ok u) : t.Settled cwd path := by
  intro p hp
  cases hp with
  | self => exact hlast
  | above hup' hp =>
    obtain rfl := Option.some.inj (hup.symm.trans hup')
    rcases h with rfl | h
    · exact settled_empty t cwd p hp
    · exact h p hp

/-- Where a directory cannot be made although nothing is missing above it, there is nothing to be
made above it either. -/
theorem settled_of_makeDir {e : FileError} (hfault : pathFault? path = none)
    (h : t.makeDir cwd path = .error e) (hne : e ≠ .os .noEntry) : t.Settled cwd path := by
  intro p hp
  induction hp generalizing e with
  | self =>
    intro u hu
    rw [h] at hu
    cases hu
  | @above up path hup hp ih =>
    by_cases hempty : up = ""
    · subst hempty
      exact settled_empty t cwd p hp
    · have hfault' := pathFault?_parent hup hempty hfault
      have hthere : ¬t.IsMissing cwd up := fun hmissing =>
        hne (Except.error.inj (h.symm.trans (hmissing.makeDir hup hfault)))
      obtain ⟨e', he', hne'⟩ : ∃ e', t.makeDir cwd up = .error e' ∧ e' ≠ .os .noEntry := by
        refine Classical.byContradiction fun hall => hthere (isMissing_of_makeDir hfault' ?_)
        exact fun e' he' => Classical.byContradiction fun hne' => hall ⟨e', he', hne'⟩
      exact ih hfault' he' hne'

theorem settled_of_pathIsDir (h : t.pathIsDir cwd path = true) : t.Settled cwd path :=
  settled_of_makeDir (pathIsDir_iff.1 h).1 (makeDir_of_pathIsDir h) (by decide)

/-- The tree after one missing directory and another has been made at paths on the way. -/
inductive Makes (cwd : Key) (path : String) (t : Tree) : Tree → Prop
  | start : Makes cwd path t t
  | next {p : String} {u v : Tree} :
      Makes cwd path t u → OnWay p path → u.makeDir cwd p = .ok v → Makes cwd path t v

theorem Makes.of_parent (h : Makes cwd up t u) (hup : FilePath.parent? path = some up) :
    Makes cwd path t u := by
  induction h with
  | start => exact .start
  | next _ hp hmade ih => exact .next ih (.above hup hp) hmade

/-- The tree with directories more, to each of which a path on the way leads. -/
structure Extended (cwd : Key) (path : String) (t u : Tree) : Prop where
  sealed : u.sealed = t.sealed
  entry : ∀ k, u.get? k = t.get? k ∨
    t.get? k = none ∧ u.get? k = some .dir ∧ ∃ p, OnWay p path ∧ u.locate cwd p = .ok k

theorem Extended.keeps (h : Extended cwd path t u) {k : Key} {e : Entry}
    (he : t.get? k = some e) : u.get? k = some e := by
  rcases h.entry k with hsame | ⟨hnone, -⟩
  · rw [hsame, he]
  · rw [hnone] at he
    cases he

theorem locate_mono (h : ∀ k e, t.get? k = some e → u.get? k = some e) {k : Key}
    (hk : t.locate cwd path = .ok k) : u.locate cwd path = .ok k := by
  obtain ⟨hfault, hleads⟩ := locate_eq_ok_iff.1 hk
  exact locate_eq_ok_iff.2 ⟨hfault, hleads.mono h⟩

theorem Makes.extended (h : Makes cwd path t u) : Extended cwd path t u := by
  induction h with
  | start => exact ⟨rfl, fun _ => Or.inl rfl⟩
  | @next p s u _ hp hmade ih =>
    obtain ⟨k, hnone, rfl, hdir, hloc⟩ := locate_of_makeDir hmade
    refine ⟨ih.sealed, ?_⟩
    intro k'
    by_cases hk : k' = k
    · subst hk
      rcases ih.entry k' with hsame | ⟨-, hsome, -⟩
      · exact Or.inr ⟨hsame.symm.trans hnone, hdir, p, hp, hloc⟩
      · rw [hsome] at hnone
        cases hnone
    · rw [get?_add_of_ne hk]
      exact (ih.entry k').imp_right fun ⟨ht, hs, q, hq, hloc'⟩ =>
        ⟨ht, hs, q, hq, locate_mono (fun _ _ he => get?_add_of_eq_some he k .dir) hloc'⟩

theorem WellFormed.makeDir (hwf : t.WellFormed) (hcwd : t.get? cwd = some .dir)
    (h : t.makeDir cwd path = .ok u) : u.WellFormed := by
  obtain ⟨d, n, slash, hloc, -, hnone, rfl⟩ := makeDir_eq_ok h
  have hd : t.get? d = some .dir := by
    obtain ⟨-, -, hleads⟩ := locateParent_eq_ok_iff.1 hloc
    rw [← walk_eq_ok_iff, walk_splitLast, walk_eq_ok_iff] at hleads
    exact hleads.get?_dir hwf (get?_origin hwf hcwd path) (EndsIdle.slash _)
  refine ⟨get?_add_of_eq_some hwf.root _ _, fun name dir' hsome => get?_add_of_eq_some ?_ _ _, ?_⟩
  · by_cases hk : name :: dir' = n :: d
    · rw [(List.cons.inj hk).2]
      exact hd
    · rw [get?_add_of_ne hk] at hsome
      exact hwf.parents name dir' hsome
  · have hfresh : n :: d ∉ t.entries.map Prod.fst := by
      intro hmem
      obtain ⟨⟨k, e⟩, he, hk⟩ := List.mem_map.1 hmem
      have := List.lookup_eq_none_iff.1 hnone (k, e) he
      simp [← hk] at this
    simp only [Tree.add, List.map_append, List.map_cons, List.map_nil]
    refine List.nodup_append.2 ⟨hwf.once, List.pairwise_singleton _ _, ?_⟩
    rintro k hk k' hk' rfl
    rw [List.mem_singleton.1 hk'] at hk
    exact hfresh hk

theorem Makes.wellFormed (h : Makes cwd path t u) (hwf : t.WellFormed)
    (hcwd : t.get? cwd = some .dir) : u.WellFormed := by
  induction h with
  | start => exact hwf
  | next hmakes _ hmade ih => exact ih.makeDir (hmakes.extended.keeps hcwd) hmade

/-- Where nothing more can be made, all is there that could have been made. -/
theorem Makes.le_settled (hu : Makes cwd path t u) (hv : Makes cwd path t v)
    (hsettled : v.Settled cwd path) {k : Key} {e : Entry} (he : u.get? k = some e) :
    v.get? k = some e := by
  induction hu generalizing k e with
  | start => exact hv.extended.keeps he
  | @next p s u hs hp hmade ih =>
    obtain ⟨d, n, hfree, hopen, rfl⟩ := free_of_makeDir hmade
    by_cases hk : k = n :: d
    · subst hk
      obtain rfl : e = .dir := by
        rw [get?_add, hfree.2.2, if_pos rfl] at he
        exact (Option.some.inj he).symm
      have hnone : t.get? (n :: d) = none := by
        apply Option.eq_none_iff_forall_ne_some.2
        intro e' he'
        have := hfree.2.2.symm.trans (hs.extended.keeps he')
        cases this
      rcases hv.extended.entry (n :: d) with hsame | ⟨-, hdir, -⟩
      · -- Otherwise the same directory could still be made.
        have hfree' := hfree.mono (fun _ _ => ih) (hsame.trans hnone)
        have hopen' : v.refusal? d = none := by
          rw [refusal?, hv.extended.sealed, ← hs.extended.sealed]
          exact hopen
        refine absurd ?_ (hsettled p hp (v.add (n :: d) .dir))
        rw [hfree'.makeDir, hopen']
      · exact hdir
    · rw [get?_add_of_ne hk] at he
      exact ih he

/-- What making a directory with all that is missing above it comes to. -/
structure Made (cwd : Key) (path : String) (t : Tree) (r : Tree × Option FileError) : Prop where
  makes : Makes cwd path t r.1
  settled : pathFault? path = none → r.1.Settled cwd path
  done_iff : r.2 = none ↔ path = "" ∨ r.1.pathIsDir cwd path = true

namespace Made

variable {cause : FileError}

theorem of_pathIsDir (h : Makes cwd path t u) (hdir : u.pathIsDir cwd path = true) :
    Made cwd path t (u, none) :=
  ⟨h, fun _ => settled_of_pathIsDir hdir, iff_of_true rfl (Or.inr hdir)⟩

theorem of_not_pathIsDir (h : Makes cwd path t u)
    (hsettled : pathFault? path = none → u.Settled cwd path) (hne : path ≠ "")
    (hdir : ¬u.pathIsDir cwd path = true) : Made cwd path t (u, some cause) :=
  ⟨h, hsettled, iff_of_false (Option.some_ne_none _) (not_or.2 ⟨hne, hdir⟩)⟩

end Made

theorem makeLastDir_cases (t : Tree) (cwd : Key) (path : String) :
    (∃ u, t.makeLastDir cwd path = .ok u ∧ u.pathIsDir cwd path = true ∧
      (u = t ∨ t.makeDir cwd path = .ok u)) ∨
      ∃ e, t.makeLastDir cwd path = .error e ∧ t.makeDir cwd path = .error e ∧
        ¬t.pathIsDir cwd path = true := by
  rw [makeLastDir]
  cases hmade : t.makeDir cwd path with
  | ok u => exact Or.inl ⟨u, rfl, pathIsDir_of_makeDir hmade, Or.inr rfl⟩
  | error e =>
    by_cases hdir : t.pathIsDir cwd path = true
    · exact Or.inl ⟨t, if_pos hdir, hdir, Or.inl rfl⟩
    · exact Or.inr ⟨e, if_neg hdir, rfl, hdir⟩

/-- When the directory above cannot be made, the path leads to nothing, and nothing can be made
there. -/
theorem Made.of_parent_failed (hwf : t.WellFormed) (hcwd : t.get? cwd = some .dir)
    {cause : FileError} (hup : FilePath.parent? path = some up) (hne : path ≠ "")
    (h : Made cwd up t (u, some cause)) : Made cwd path t (u, some cause) := by
  obtain ⟨hup_ne, hnot⟩ : up ≠ "" ∧ ¬u.pathIsDir cwd up = true :=
    not_or.1 (mt h.done_iff.2 (Option.some_ne_none _))
  have hwf' := h.makes.wellFormed hwf hcwd
  have hcwd' := h.makes.extended.keeps hcwd
  refine .of_not_pathIsDir (h.makes.of_parent hup) (fun hfault => ?_) hne fun hdir => ?_
  · refine .of_parent (Or.inr (h.settled (pathFault?_parent hup hup_ne hfault))) hup fun v hv => ?_
    obtain ⟨d, n, ⟨⟨slash, hloc⟩, -⟩, -⟩ := free_of_makeDir hv
    exact hnot (pathIsDir_parent hwf' hcwd' hup hup_ne hloc)
  · exact hnot (pathIsDir_onWay hwf' hcwd' (.above hup (.self up)) hup_ne hdir)

/-- With the directory above there is only the last one left to be made. -/
theorem Made.of_parent_done (hup : FilePath.parent? path = some up) (hne : path ≠ "")
    (h : Made cwd up t (u, none)) :
    Made cwd path t
      (match u.makeLastDir cwd path with
        | .ok v => (v, none)
        | .error e => (u, some e)) := by
  have hmakes := h.makes.of_parent hup
  rcases u.makeLastDir_cases cwd path with ⟨v, hlast, hdir, rfl | hmade⟩ | ⟨e, hlast, hmade, hdir⟩
  · rw [hlast]
    exact .of_pathIsDir hmakes hdir
  · rw [hlast]
    exact .of_pathIsDir (.next hmakes (.self path) hmade) hdir
  · rw [hlast]
    refine .of_not_pathIsDir hmakes (fun hfault => ?_) hne hdir
    have hupper : up = "" ∨ u.Settled cwd up := by
      by_cases hempty : up = ""
      · exact Or.inl hempty
      · exact Or.inr (h.settled (pathFault?_parent hup hempty hfault))
    refine .of_parent hupper hup fun v hv => ?_
    rw [hmade] at hv
    cases hv

/-- Every call goes as far as one can get, and it succeeds if that is far enough. -/
theorem made_makeDirsWithin (hwf : t.WellFormed) (hcwd : t.get? cwd = some .dir) {fuel : Nat}
    (hfuel : path.length < fuel) : Made cwd path t (t.makeDirsWithin cwd fuel path) := by
  induction fuel generalizing path with
  | zero => omega
  | succ fuel ih =>
    rw [makeDirsWithin]
    split
    · rename_i hempty
      subst hempty
      exact ⟨.start, fun _ => settled_empty t cwd, iff_of_true rfl (Or.inl rfl)⟩
    · rename_i hne
      split
      · rename_i u hmade
        exact .of_pathIsDir (.next .start (.self path) hmade) (pathIsDir_of_makeDir hmade)
      · rename_i e hmade
        split
        · rename_i he
          split
          · rename_i hup
            have hnot : ¬t.pathIsDir cwd path = true := fun hdir => by
              rw [makeDir_of_pathIsDir hdir] at hmade
              exact absurd (Except.error.inj hmade) (he ▸ by decide)
            refine .of_not_pathIsDir .start (fun _ p hp => ?_) hne hnot
            cases hp with
            | self =>
              intro u hu
              rw [hmade] at hu
              cases hu
            | above hup' _ => cases hup.symm.trans hup'
          · rename_i up hup
            have hlength := FilePath.parent?_length hup
            have hupper : Made cwd up t (t.makeDirsWithin cwd fuel up) := ih (by omega)
            generalize t.makeDirsWithin cwd fuel up = r at hupper ⊢
            obtain ⟨u, fault⟩ := r
            cases fault with
            | some cause => exact hupper.of_parent_failed hwf hcwd hup hne
            | none => exact hupper.of_parent_done hup hne
        · rename_i he
          split
          · exact .of_pathIsDir .start ‹_›
          · refine .of_not_pathIsDir .start (fun hfault => ?_) hne ‹_›
            exact settled_of_makeDir hfault hmade he

theorem made_makeDirs (hwf : t.WellFormed) (hcwd : t.get? cwd = some .dir) (path : String) :
    Made cwd path t (t.makeDirs cwd path) :=
  made_makeDirsWithin hwf hcwd (Nat.lt_succ_self _)

theorem Made.done_of_makes {r : Tree × Option FileError} (h : Made cwd path t r)
    (hu : Makes cwd path t u) (hdir : u.pathIsDir cwd path = true) : r.2 = none := by
  obtain ⟨hfault, k, hleads, hk⟩ := pathIsDir_iff.1 hdir
  have hle : ∀ k e, u.get? k = some e → r.1.get? k = some e :=
    fun _ _ => hu.le_settled h.makes (h.settled hfault)
  exact h.done_iff.2 (Or.inr (pathIsDir_iff.2 ⟨hfault, k, hleads.mono hle, hle _ _ hk⟩))

/-- The path names an entry that is no directory and leads to none. -/
def Blocks (t : Tree) (cwd : Key) (path : String) : Prop :=
  (t.entryAt cwd path).isSome = true ∧ ¬t.pathIsDir cwd path = true

namespace Blocks

theorem locateParent (h : t.Blocks cwd path) :
    ∃ dir name slash, t.locateParent cwd path = .ok (dir, .name name slash) ∧
      (t.get? (name :: dir)).isSome = true := by
  obtain ⟨hsome, -⟩ := h
  rw [entryAt] at hsome
  split at hsome
  · exact ⟨_, _, _, ‹_›, hsome⟩
  · cases hsome

theorem ne_empty (h : t.Blocks cwd path) : path ≠ "" := by
  rintro rfl
  obtain ⟨dir, name, slash, hloc, -⟩ := h.locateParent
  exact absurd (locateParent_eq_ok_iff.1 hloc).1 (by decide)

theorem settled (h : t.Blocks cwd path) : t.Settled cwd path := by
  obtain ⟨dir, name, slash, hloc, hsome⟩ := h.locateParent
  have hfault := (locateParent_eq_ok_iff.1 hloc).1
  rcases t.makeDir_cases cwd path with ⟨e, hfailed, -⟩ | ⟨dir', name', ⟨slash', hloc'⟩, -, hnone⟩ |
    ⟨e, hmade, hne⟩
  · cases hloc.symm.trans hfailed
  · cases hloc.symm.trans hloc'
    rw [hnone] at hsome
    cases hsome
  · exact settled_of_makeDir hfault hmade hne

theorem makeDir_below (h : t.Blocks cwd p) (hwf : t.WellFormed) (hcwd : t.get? cwd = some .dir)
    (hp : OnWay p path) : t.makeDir cwd path ≠ .ok u := by
  intro hmade
  cases hp with
  | self => exact h.settled path (.self path) u hmade
  | @above up _ hup hp =>
    obtain ⟨d, n, ⟨⟨slash, hloc⟩, -⟩, -⟩ := free_of_makeDir hmade
    have hup_ne : up ≠ "" := by
      rintro rfl
      exact h.ne_empty hp.eq_of_empty
    exact h.2 (pathIsDir_onWay hwf hcwd hp h.ne_empty (pathIsDir_parent hwf hcwd hup hup_ne hloc))

theorem eq_of_makes (h : t.Blocks cwd p) (hwf : t.WellFormed) (hcwd : t.get? cwd = some .dir)
    (hp : OnWay p path) (hu : Makes cwd path t u) : u = t := by
  induction hu with
  | start => rfl
  | @next q s v _ hq hmade ih =>
    subst ih
    rcases hq.total hp with hqp | hpq
    · exact absurd hmade (h.settled q hqp v)
    · exact absurd hmade (h.makeDir_below hwf hcwd hpq)

theorem not_pathIsDir (h : t.Blocks cwd p) (hwf : t.WellFormed) (hcwd : t.get? cwd = some .dir)
    (hp : OnWay p path) (hu : Makes cwd path t u) : ¬u.pathIsDir cwd path = true := by
  rw [h.eq_of_makes hwf hcwd hp hu]
  exact fun hdir => h.2 (pathIsDir_onWay hwf hcwd hp h.ne_empty hdir)

end Blocks

end Tree

namespace Release

open ServerLauncher.Tree

variable {t : Tree} {cwd : Key} {root artifact extension : String} {tag : Tag}

theorem destination_fails_iff :
    (∃ e, (destination t cwd root artifact tag extension).2 = .error e) ↔
      (t.makeDirs cwd (serverDir root)).2 ≠ none := by
  rw [Option.ne_none_iff_exists']
  constructor
  · rintro ⟨e, he⟩
    obtain ⟨cause, hcause, -⟩ := destination_eq_error_iff.1 he
    exact ⟨cause, hcause⟩
  · rintro ⟨cause, hcause⟩
    exact ⟨_, destination_eq_error_iff.2 ⟨cause, hcause, rfl⟩⟩

/-- Resolving a destination changes and removes nothing, whether it succeeds or not, and adds only
missing directories that paths on the way to the server directory lead to. If it succeeds, the
server directory is one, and resolving once more gives the same path and changes nothing at all. A
failure names the server directory. It fails exactly if this is no directory and no making of
missing directories at paths on the way, in whatever order, leads to it; so it does if one of these
paths names a file or a link that leads to no directory. -/
theorem destination_idempotent (root artifact : String) (tag : Tag) (extension : String)
    (hwf : t.WellFormed) (hcwd : t.get? cwd = some .dir) :
    let dir := serverDir root
    let r := destination t cwd root artifact tag extension
    Extended cwd dir t r.1 ∧
      (∀ path, r.2 = .ok path → path = FilePath.join dir (fileName artifact tag extension) ∧
        r.1.pathIsDir cwd dir = true ∧
        destination r.1 cwd root artifact tag extension = (r.1, .ok path)) ∧
      (∀ e, r.2 = .error e → ∃ cause, e = .file "create directory" dir cause) ∧
      ((∃ e, r.2 = .error e) ↔ ¬t.pathIsDir cwd dir = true ∧
        ¬∃ u, Makes cwd dir t u ∧ u.pathIsDir cwd dir = true) ∧
      ∀ p, OnWay p dir → t.Blocks cwd p → ∃ e, r.2 = .error e := by
  intro dir r
  have hmade : Made cwd dir t (t.makeDirs cwd dir) := made_makeDirs hwf hcwd dir
  have htree : r.1 = (t.makeDirs cwd dir).1 := destination_fst
  have hdone : (t.makeDirs cwd dir).2 = none ↔ r.1.pathIsDir cwd dir = true := by
    rw [hmade.done_iff, or_iff_right (serverDir_ne_empty root), htree]
  have hfails : (∃ e, r.2 = .error e) ↔ ¬∃ u, Makes cwd dir t u ∧ u.pathIsDir cwd dir = true := by
    rw [destination_fails_iff, ne_eq, not_congr]
    constructor
    · exact fun h => ⟨r.1, htree ▸ hmade.makes, hdone.1 h⟩
    · exact fun ⟨u, hu, hdir⟩ => hmade.done_of_makes hu hdir
  refine ⟨htree ▸ hmade.makes.extended, ?_, ?_, ?_, ?_⟩
  · intro path hpath
    obtain ⟨hok, hjoin⟩ := destination_eq_ok_iff.1 hpath
    have hdir := hdone.1 hok
    have hagain : r.1.makeDirs cwd dir = (r.1, none) := makeDirs_of_pathIsDir hdir
    refine ⟨hjoin, hdir, Prod.ext ?_ ?_⟩
    · exact destination_fst.trans (congrArg Prod.fst hagain)
    · exact destination_eq_ok_iff.2 ⟨congrArg Prod.snd hagain, hjoin⟩
  · intro e he
    obtain ⟨cause, -, rfl⟩ := destination_eq_error_iff.1 he
    exact ⟨cause, rfl⟩
  · rw [hfails]
    exact ⟨fun hnone => ⟨fun hdir => hnone ⟨t, .start, hdir⟩, hnone⟩, And.right⟩
  · intro p hp hblocks
    rw [hfails]
    rintro ⟨u, hu, hdir⟩
    exact hblocks.not_pathIsDir hwf hcwd hp hu hdir

/-- The directory is made behind a link, and the second time it is there. -/
theorem destination_behind_link :
    let t : Tree := ⟨[([], .dir), (["disk"], .dir), (["data"], .link "disk")], []⟩
    let tag : Tag := ⟨"v3", by decide +kernel⟩
    let r := destination t [] "data/." "lsp" tag ""
    t.WellFormed ∧ t.get? [] = some .dir ∧ r.1 = t.add ["server", "disk"] .dir ∧
      r.2 = .ok "data/./server/lsp-v3" ∧
      destination r.1 [] "data/." "lsp" tag "" = (r.1, .ok "data/./server/lsp-v3") := by
  intro t tag r
  have hroot : t.get? [] = some .dir := by decide +kernel
  have hwf : t.WellFormed := by
    refine ⟨hroot, ?_, by decide +kernel⟩
    intro name dir hsome
    cases dir with
    | nil => exact hroot
    | cons d rest => simp [t, get?, lookup_cons_ite] at hsome
  have hpath : r.2 = .ok "data/./server/lsp-v3" := toOption_eq_some_iff.1 (by decide +kernel)
  obtain ⟨-, hdone, -⟩ := destination_idempotent "data/." "lsp" tag "" hwf hroot
  exact ⟨hwf, hroot, by decide +kernel, hpath, (hdone _ hpath).2.2⟩

end Release

end ServerLauncher
