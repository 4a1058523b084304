import ServerLauncher.Files.Change
import ServerLauncher.Proofs.Walking

/-!
Making a directory with all that is missing above it. It adds directories only, named as steps of
the path. When it succeeds the path leads to a directory, and for such a path it does nothing.
-/

namespace ServerLauncher

namespace Tree

variable {t u : Tree} {cwd : Key} {path : String}

theorem locate_eq_ok_iff {k : Key} :
    t.locate cwd path = .ok k ↔
      pathFault? path = none ∧ Leads t linkLimit (origin cwd path) (steps path) k := by
  rw [← walk_eq_ok_iff, locate]
  cases pathFault? path with
  | some fault => simp
  | none =>
    cases t.walk linkLimit (origin cwd path) (steps path) with
    | error e =>
      constructor
      · intro h
        cases h
      · rintro ⟨-, h⟩
        cases h
    | ok k' => exact ⟨fun h => ⟨rfl, congrArg _ (Except.ok.inj h)⟩,
        fun h => congrArg _ (Except.ok.inj h.2)⟩

theorem pathIsDir_iff :
    t.pathIsDir cwd path = true ↔ pathFault? path = none ∧
      ∃ k, Leads t linkLimit (origin cwd path) (steps path) k ∧ t.get? k = some .dir := by
  have hlocate : t.pathIsDir cwd path = true ↔
      ∃ k, t.locate cwd path = .ok k ∧ t.get? k = some .dir := by
    rw [pathIsDir, stat]
    cases t.locate cwd path with
    | error e => simp [Except.toOption]
    | ok k =>
      cases hg : t.get? k with
      | none => simp [Except.toOption, hg]
      | some e => cases e <;> simp [Except.toOption, hg, Entry.isDir]
  rw [hlocate]
  constructor
  · rintro ⟨k, hk, hdir⟩
    obtain ⟨hfault, hleads⟩ := locate_eq_ok_iff.1 hk
    exact ⟨hfault, k, hleads, hdir⟩
  · rintro ⟨hfault, k, hleads, hdir⟩
    exact ⟨k, locate_eq_ok_iff.2 ⟨hfault, hleads⟩, hdir⟩

theorem directoryAt_of_pathIsDir (h : t.pathIsDir cwd path = true) :
    ∃ d, t.directoryAt cwd path = some d := by
  obtain ⟨-, k, hleads, hdir⟩ := pathIsDir_iff.1 h
  have hk : t.isDir k = true := by simp [isDir, hdir, Entry.isDir]
  exact ⟨k, directoryAt_eq_some_iff.2 (hleads.slash hk)⟩

theorem Leads.to_slash {n : Nat} {dir d : Key} {xs ys : List String}
    (hl : Leads t n dir (xs ++ ys) d) (hys : ys ≠ []) : ∃ d', Leads t n dir (xs ++ [""]) d' := by
  generalize hss : xs ++ ys = ss at hl
  induction hl generalizing xs with
  | nil n dir => exact absurd (List.append_eq_nil_iff.1 hss).2 hys
  | @idle n dir d step rest hi _ ih =>
    cases xs with
    | nil => exact ⟨dir, .idle (Or.inl rfl) (.nil n dir)⟩
    | cons x xs =>
      obtain ⟨rfl, hrest⟩ := List.cons.inj hss
      obtain ⟨d', hd'⟩ := ih hrest
      exact ⟨d', .idle hi hd'⟩
  | @up n dir d rest _ ih =>
    cases xs with
    | nil => exact ⟨dir, .idle (Or.inl rfl) (.nil n dir)⟩
    | cons x xs =>
      obtain ⟨rfl, hrest⟩ := List.cons.inj hss
      obtain ⟨d', hd'⟩ := ih hrest
      exact ⟨d', .up hd'⟩
  | @down n dir d step rest hi hu hs hg _ ih =>
    cases xs with
    | nil => exact ⟨dir, .idle (Or.inl rfl) (.nil n dir)⟩
    | cons x xs =>
      obtain ⟨rfl, hrest⟩ := List.cons.inj hss
      obtain ⟨d', hd'⟩ := ih hrest
      exact ⟨d', .down hi hu hs hg hd'⟩
  | @file n dir step mode content hi hu hs hg =>
    cases xs with
    | nil => exact ⟨dir, .idle (Or.inl rfl) (.nil n dir)⟩
    | cons x xs => exact absurd (List.append_eq_nil_iff.1 (List.cons.inj hss).2).2 hys
  | @link n dir d step target rest hi hu hs hg _ ih =>
    cases xs with
    | nil => exact ⟨dir, .idle (Or.inl rfl) (.nil _ dir)⟩
    | cons x xs =>
      obtain ⟨rfl, hrest⟩ := List.cons.inj hss
      obtain ⟨d', hd'⟩ := ih ((List.append_assoc ..).trans (congrArg _ hrest))
      rw [List.append_assoc] at hd'
      exact ⟨d', .link hi hu hs hg hd'⟩

theorem entry_of_walk_name {n : Nat} {dir d : Key} {name : String} {rest : List String}
    (hi : ¬IsIdle name) (hu : name ≠ "..") (hw : t.walk n dir (name :: rest) = .ok d) :
    name.utf8ByteSize ≤ 255 ∧ (t.get? (name :: dir)).isSome = true := by
  rw [walk_name t n dir hi hu] at hw
  split at hw
  · cases hw
  · rename_i hsize
    cases hg : t.get? (name :: dir) with
    | none =>
      rw [hg] at hw
      cases hw
    | some e => exact ⟨Nat.le_of_not_lt hsize, rfl⟩

theorem locateParent_of_pathIsDir (h : t.pathIsDir cwd path = true) :
    ∃ d last, t.locateParent cwd path = .ok (d, last) ∧
      ∀ n slash, last = .name n slash → n.utf8ByteSize ≤ 255 ∧ (t.get? (n :: d)).isSome = true := by
  obtain ⟨hfault, k, hleads, -⟩ := pathIsDir_iff.1 h
  rcases splitLast_cases path with hroot |
    ⟨dirs, last, idle, hsteps, hne, -, ⟨-, hdots⟩ | ⟨hnot, slash, hname⟩⟩
  · refine ⟨origin cwd path, .root, ?_, by simp⟩
    rw [locateParent_eq_ok_iff, hroot]
    exact ⟨hfault, rfl, .nil _ _⟩
  · rw [hsteps] at hleads
    obtain ⟨d, hd⟩ := hleads.to_slash (by simp)
    refine ⟨d, .dots, ?_, by simp⟩
    rw [locateParent_eq_ok_iff, hdots]
    exact ⟨hfault, rfl, hd⟩
  · rw [hsteps] at hleads
    obtain ⟨d, hd⟩ := hleads.to_slash (by simp)
    refine ⟨d, .name last slash, ?_, ?_⟩
    · rw [locateParent_eq_ok_iff, hname]
      exact ⟨hfault, rfl, hd⟩
    · intro n slash' heq
      obtain ⟨rfl, -⟩ := LastStep.name.inj heq
      obtain ⟨m, hm⟩ := hd.append
      have hwalk : t.walk m d (last :: idle) = .ok k := by
        rw [← hm]
        exact walk_of_leads hleads
      have hidle : ¬IsIdle last := fun hi => hi.elim hne fun he => hnot (Or.inl he)
      exact entry_of_walk_name hidle (fun he => hnot (Or.inr he)) hwalk

theorem makeDir_of_taken {d : Key} {last : LastStep}
    (hloc : t.locateParent cwd path = .ok (d, last))
    (htaken : ∀ n slash, last = .name n slash →
      n.utf8ByteSize ≤ 255 ∧ (t.get? (n :: d)).isSome = true) :
    t.makeDir cwd path = .error (.os .present) := by
  cases last with
  | dots => rw [makeDir, hloc]
  | root => rw [makeDir, hloc]
  | name n slash =>
    obtain ⟨hsize, hentry⟩ := htaken n slash rfl
    rw [makeDir, hloc]
    dsimp only
    rw [if_neg (by omega), if_pos hentry]

theorem makeDirs_eq_self (hok : ∀ t', t.makeDir cwd path ≠ .ok t')
    (hmissing : t.makeDir cwd path ≠ .error (.os .noEntry)) :
    (t.makeDirs cwd path).1 = t ∧
      ((t.makeDirs cwd path).2 = none → path = "" ∨ t.pathIsDir cwd path = true) := by
  rw [makeDirs, makeDirsWithin]
  split
  · rename_i hempty
    exact ⟨rfl, fun _ => Or.inl hempty⟩
  · cases hd : t.makeDir cwd path with
    | ok t' => exact absurd hd (hok t')
    | error e =>
      have he : e ≠ .os .noEntry := fun he => hmissing (he ▸ hd)
      dsimp only
      rw [if_neg he]
      split
      · rename_i hdir
        exact ⟨rfl, fun _ => Or.inr hdir⟩
      · exact ⟨rfl, fun h => by cases h⟩

theorem makeDirs_of_pathIsDir (h : t.pathIsDir cwd path = true) :
    t.makeDirs cwd path = (t, none) := by
  rw [makeDirs, makeDirsWithin]
  split
  · rfl
  · have hne : FileError.os .present ≠ .os .noEntry := by decide
    obtain ⟨d, last, hloc, htaken⟩ := locateParent_of_pathIsDir h
    rw [makeDir_of_taken hloc htaken]
    dsimp only
    rw [if_neg hne]

theorem place_eq_ok {dir k : Key} {name : String} (h : t.place dir name = .ok k) :
    t.refusal? dir = none ∧ k = name :: dir := by
  unfold place at h
  split at h
  · cases h
  · split at h
    · cases h
    · rename_i hopen
      exact ⟨hopen, (Except.ok.inj h).symm⟩

theorem makeDir_eq_ok {t' : Tree} (h : t.makeDir cwd path = .ok t') :
    ∃ d n slash, t.locateParent cwd path = .ok (d, .name n slash) ∧ n.utf8ByteSize ≤ 255 ∧
      t.get? (n :: d) = none ∧ t' = t.add (n :: d) .dir := by
  unfold makeDir at h
  split at h
  · cases h
  · rename_i d n slash hloc
    split at h
    · cases h
    · rename_i hsize
      split at h
      · cases h
      · rename_i hnone
        split at h
        · rename_i k hplace
          obtain ⟨-, rfl⟩ := place_eq_ok hplace
          exact ⟨d, n, slash, hloc, by omega, by simpa using hnone, (Except.ok.inj h).symm⟩
        · cases h
  · cases h

theorem walk_of_all_empty {ss : List String} (h : ∀ s ∈ ss, s = "") (t : Tree) (n : Nat)
    (dir : Key) : t.walk n dir ss = .ok dir := by
  induction ss with
  | nil => exact walk_nil t n dir
  | cons s ss ih =>
    rw [walk_idle t n dir (Or.inl (h s (by simp)))]
    exact ih fun s' hs' => h s' (by simp [hs'])

theorem get?_add_of_eq_some {k : Key} {e : Entry} (h : t.get? k = some e) (k' : Key) (e' : Entry) :
    (t.add k' e').get? k = some e := by
  rw [get?_add, h]
  rfl

theorem get?_add_of_ne {k k' : Key} (h : k ≠ k') (e : Entry) : (t.add k' e).get? k = t.get? k := by
  rw [get?_add, if_neg h, Option.or_none]

theorem locate_of_makeDir (h : t.makeDir cwd path = .ok u) :
    ∃ k, t.get? k = none ∧ u = t.add k .dir ∧ u.get? k = some .dir ∧ u.locate cwd path = .ok k := by
  obtain ⟨d, n, slash, hloc, hsize, hnone, rfl⟩ := makeDir_eq_ok h
  obtain ⟨hfault, hlast, hleads⟩ := locateParent_eq_ok_iff.1 hloc
  have hnew : (t.add (n :: d) .dir).get? (n :: d) = some .dir := by simp [get?_add, hnone]
  rcases splitLast_cases path with hroot |
    ⟨dirs, last, idle, hsteps, hne, hidle, ⟨-, hdots⟩ | ⟨hnot, slash', hname⟩⟩
  · rw [hroot] at hlast
    cases hlast
  · rw [hdots] at hlast
    cases hlast
  · rw [hname] at hlast hleads
    obtain ⟨rfl, -⟩ := LastStep.name.inj hlast
    obtain ⟨m, hm⟩ := (hleads.mono fun _ _ he => get?_add_of_eq_some he (last :: d) .dir).append
    have hi : ¬IsIdle last := fun hi => hi.elim hne fun he => hnot (Or.inl he)
    refine ⟨last :: d, hnone, rfl, hnew, locate_eq_ok_iff.2 ⟨hfault, ?_⟩⟩
    rw [hsteps, ← walk_eq_ok_iff, hm, walk_name _ m d hi (fun he => hnot (Or.inr he)),
      if_neg (by omega), hnew]
    exact walk_of_all_empty hidle _ m (last :: d)

theorem pathIsDir_of_makeDir (h : t.makeDir cwd path = .ok u) : u.pathIsDir cwd path = true := by
  obtain ⟨k, -, -, hdir, hloc⟩ := locate_of_makeDir h
  obtain ⟨hfault, hleads⟩ := locate_eq_ok_iff.1 hloc
  exact pathIsDir_iff.2 ⟨hfault, k, hleads, hdir⟩

theorem pathIsDir_of_makeLastDir (h : t.makeLastDir cwd path = .ok u) :
    u.pathIsDir cwd path = true := by
  unfold makeLastDir at h
  split at h
  · rename_i t' hmade
    obtain rfl := Except.ok.inj h
    exact pathIsDir_of_makeDir hmade
  · split at h
    · rename_i hdir
      obtain rfl := Except.ok.inj h
      exact hdir
    · cases h

theorem pathIsDir_of_makeDirs (h : (t.makeDirs cwd path).2 = none) (hne : path ≠ "") :
    (t.makeDirs cwd path).1.pathIsDir cwd path = true := by
  rw [makeDirs, makeDirsWithin, if_neg hne] at h ⊢
  split
  · rename_i t' hmade
    exact pathIsDir_of_makeDir hmade
  · rename_i e hmade
    rw [hmade] at h
    dsimp only at h
    split
    · rename_i he
      rw [if_pos he] at h
      cases hup : FilePath.parent? path with
      | none =>
        rw [hup] at h
        cases h
      | some up =>
        rw [hup] at h
        dsimp only at h ⊢
        generalize makeDirsWithin cwd path.length t up = upper at h ⊢
        obtain ⟨t', fault⟩ := upper
        cases fault with
        | some e' => cases h
        | none =>
          dsimp only at h ⊢
          cases hlast : t'.makeLastDir cwd path with
          | ok t'' => exact pathIsDir_of_makeLastDir hlast
          | error e' =>
            rw [hlast] at h
            cases h
    · rename_i he
      rw [if_neg he] at h
      split
      · assumption
      · rename_i hdir
        rw [if_neg hdir] at h
        cases h

/-- The tree with directories more, named as some of the steps. -/
structure Grown (ss : List String) (t u : Tree) : Prop where
  sealed : u.sealed = t.sealed
  entry : ∀ k, u.get? k = t.get? k ∨
    t.get? k = none ∧ u.get? k = some .dir ∧ ∃ name ∈ ss, k.head? = some name

namespace Grown

variable {ss : List String}

theorem refl (ss : List String) (t : Tree) : Grown ss t t :=
  ⟨rfl, fun _ => Or.inl rfl⟩

theorem trans {v : Tree} (h : Grown ss t u) (h' : Grown ss u v) : Grown ss t v where
  sealed := h'.sealed.trans h.sealed
  entry k := by
    rcases h'.entry k with he' | ⟨hu, hv, hname⟩
    · rw [he']
      exact h.entry k
    · rcases h.entry k with he | ⟨ht, hu', -⟩
      · exact Or.inr ⟨he.symm.trans hu, hv, hname⟩
      · rw [hu'] at hu
        cases hu

theorem mono {ss' : List String} (h : Grown ss t u) (hss : ss ⊆ ss') : Grown ss' t u where
  sealed := h.sealed
  entry k := (h.entry k).imp_right fun ⟨ht, hu, name, hmem, hk⟩ => ⟨ht, hu, name, hss hmem, hk⟩

theorem directoryAt (h : Grown ss t u) {d : Key} (hd : t.directoryAt cwd path = some d) :
    u.directoryAt cwd path = some d := by
  refine directoryAt_mono (fun k e he => ?_) hd
  rcases h.entry k with hsame | ⟨hnone, -⟩
  · rw [hsame, he]
  · rw [hnone] at he
    cases he

theorem makeDir (h : t.makeDir cwd path = .ok u) : Grown (proper (steps path)) t u := by
  obtain ⟨d, n, slash, hloc, -, hnone, rfl⟩ := makeDir_eq_ok h
  obtain ⟨-, hlast, -⟩ := locateParent_eq_ok_iff.1 hloc
  obtain ⟨dirs, -, -, hproper⟩ := proper_of_splitLast (Prod.ext rfl hlast)
  refine ⟨rfl, ?_⟩
  intro k
  by_cases hk : k = n :: d
  · subst hk
    exact Or.inr ⟨hnone, by simp [get?_add, hnone], n, by simp [hproper], rfl⟩
  · exact Or.inl (by simp [get?_add, hk])

theorem makeLastDir (h : t.makeLastDir cwd path = .ok u) : Grown (proper (steps path)) t u := by
  unfold Tree.makeLastDir at h
  split at h
  · rename_i t' hmade
    obtain rfl := Except.ok.inj h
    exact makeDir hmade
  · split at h
    · obtain rfl := Except.ok.inj h
      exact refl _ _
    · cases h

theorem makeDirsWithin (cwd : Key) (fuel : Nat) (t : Tree) (path : String) :
    Grown (proper (steps path)) t (t.makeDirsWithin cwd fuel path).1 := by
  induction fuel generalizing t path with
  | zero => exact refl _ _
  | succ fuel ih =>
    rw [Tree.makeDirsWithin]
    split
    · exact refl _ _
    · split
      · rename_i t' hmade
        exact makeDir hmade
      · split
        · split
          · exact refl _ _
          · rename_i up hup
            have hupper := (ih t up).mono (proper_parent_subset hup)
            generalize Tree.makeDirsWithin cwd fuel t up = upper at hupper ⊢
            obtain ⟨t', fault⟩ := upper
            cases fault with
            | some e => exact hupper
            | none =>
              dsimp only
              split
              · rename_i t'' hlast
                exact hupper.trans (makeLastDir hlast)
              · exact hupper
        · split <;> exact refl _ _

theorem makeDirs (t : Tree) (cwd : Key) (path : String) :
    Grown (proper (steps path)) t (t.makeDirs cwd path).1 :=
  makeDirsWithin cwd _ t path

end Grown

/-- The tree with files in the place of some entries, or where nothing was. -/
structure Patched (t u : Tree) : Prop where
  sealed : u.sealed = t.sealed
  entry : ∀ k, u.get? k = t.get? k ∨ ∃ mode content, u.get? k = some (.file mode content)

namespace Patched

/-- A walk to a directory arrives there still, or it runs into a file. -/
theorem walk_cases (h : Patched t u) {n : Nat} {dir d : Key} {xs : List String}
    (hl : Leads t n dir (xs ++ [""]) d) :
    u.walk n dir (xs ++ [""]) = .ok d ∨ u.walk n dir (xs ++ [""]) = .error .notDirectory := by
  have hlast := EndsIdle.slash xs
  generalize xs ++ [""] = ss at hl hlast
  induction hl with
  | nil n dir => exact Or.inl (walk_nil u n dir)
  | @idle n dir d step rest hi _ ih =>
    rw [walk_idle u n dir hi]
    exact ih hlast.tail
  | @up n dir d rest _ ih =>
    rw [walk_up]
    exact ih hlast.tail
  | @down n dir d step rest hi hu hs hg _ ih =>
    rw [walk_name u n dir hi hu, if_neg (by omega)]
    rcases h.entry (step :: dir) with hsame | ⟨mode, content, hfile⟩
    · rw [hsame, hg]
      exact ih hlast.tail
    · rw [hfile]
      exact Or.inr (if_neg (hlast.ne_nil hi))
  | @file n dir step mode content hi hu hs hg => exact absurd (hlast step rfl) hi
  | @link n dir d step target rest hi hu hs hg _ ih =>
    rw [walk_name u (n + 1) dir hi hu, if_neg (by omega)]
    rcases h.entry (step :: dir) with hsame | ⟨mode, content, hfile⟩
    · rw [hsame, hg]
      exact ih (hlast.tail.append (hlast.ne_nil hi) _)
    · rw [hfile]
      exact Or.inr (if_neg (hlast.ne_nil hi))

theorem directoryAt_cases (h : Patched t u) {d : Key} (hd : t.directoryAt cwd path = some d) :
    u.directoryAt cwd path = some d ∨ u.directoryAt cwd path = none := by
  rcases h.walk_cases (directoryAt_eq_some_iff.1 hd) with hw | hw
  · exact Or.inl (by rw [directoryAt, hw]; rfl)
  · exact Or.inr (by rw [directoryAt, hw]; rfl)

theorem locateParent_cases (h : Patched t u) {d : Key} {last : LastStep}
    (hl : t.locateParent cwd path = .ok (d, last)) :
    u.locateParent cwd path = .ok (d, last) ∨
      u.locateParent cwd path = .error (.os .notDirectory) := by
  obtain ⟨hfault, hlast, hleads⟩ := locateParent_eq_ok_iff.1 hl
  have hslash : (splitLast path).1 = [] ∨ ∃ dirs, (splitLast path).1 = dirs ++ [""] := by
    rcases splitLast_cases path with hroot |
      ⟨dirs, last, idle, -, -, -, ⟨-, hdots⟩ | ⟨-, slash, hname⟩⟩
    · exact Or.inl (by rw [hroot])
    · exact Or.inr ⟨dirs, by rw [hdots]⟩
    · exact Or.inr ⟨dirs, by rw [hname]⟩
  simp only [locateParent, hfault, hlast]
  rcases hslash with hnil | ⟨dirs, hdirs⟩
  · rw [hnil] at hleads ⊢
    cases hleads
    exact Or.inl (by rw [walk_nil])
  · rw [hdirs] at hleads ⊢
    rcases h.walk_cases hleads with hw | hw
    · exact Or.inl (by rw [hw])
    · exact Or.inr (by rw [hw])

theorem makeDirs (h : Patched t u) (hdir : t.pathIsDir cwd path = true) (hne : path ≠ "") :
    (u.makeDirs cwd path).1 = u ∧
      ((u.makeDirs cwd path).2 = none → u.pathIsDir cwd path = true) := by
  obtain ⟨d, last, hloc, htaken⟩ := locateParent_of_pathIsDir hdir
  have hmade : u.makeDir cwd path = .error (.os .present) ∨
      u.makeDir cwd path = .error (.os .notDirectory) := by
    rcases h.locateParent_cases hloc with hloc' | hloc'
    · refine Or.inl (makeDir_of_taken hloc' fun n slash hname => ?_)
      obtain ⟨hsize, hentry⟩ := htaken n slash hname
      refine ⟨hsize, ?_⟩
      rcases h.entry (n :: d) with hsame | ⟨mode, content, hfile⟩
      · rw [hsame]
        exact hentry
      · rw [hfile]
        rfl
    · exact Or.inr (by rw [makeDir, hloc'])
  have hok : ∀ t', u.makeDir cwd path ≠ .ok t' := by
    intro t' ht'
    rcases hmade with he | he
    · rw [he] at ht'
      cases ht'
    · rw [he] at ht'
      cases ht'
  have hmissing : u.makeDir cwd path ≠ .error (.os .noEntry) := by
    intro hmissing
    rcases hmade with he | he
    · rw [he] at hmissing
      cases hmissing
    · rw [he] at hmissing
      cases hmissing
  obtain ⟨hself, hnone⟩ := makeDirs_eq_self hok hmissing
  exact ⟨hself, fun hn => (hnone hn).resolve_left hne⟩

end Patched

end Tree

end ServerLauncher
