import ServerLauncher.Files.Change
import ServerLauncher.Proofs.Directories

/-!
A name that nobody else uses. While no entry of a tree has the name, no link leads through it and a
change does not mention it, one entry of that name makes no difference to the change: the change
comes to the same with the entry and without it.
-/

namespace ServerLauncher

namespace Tree

variable {t : Tree} {name : String} {dir : Key}

theorem erase_add {k k' : Key} (h : k' ≠ k) (t : Tree) (e : Entry) :
    (t.add k' e).erase k = (t.erase k).add k' e := by
  simp [erase, add, List.filter_append, h]

theorem erase_add_self (t : Tree) (k : Key) (e : Entry) : (t.add k e).erase k = t.erase k := by
  simp [erase, add, List.filter_append]

theorem erase_eraseBelow (t : Tree) (k k' : Key) :
    (t.eraseBelow k').erase k = (t.erase k).eraseBelow k' := by
  simp [erase, eraseBelow, List.filter_filter, Bool.and_comm]

theorem erase_erase (t : Tree) (k k' : Key) : (t.erase k').erase k = (t.erase k).erase k' := by
  simp [erase, List.filter_filter, Bool.and_comm]

theorem erase_modify (t : Tree) (k k' : Key) (f : Entry → Entry) :
    (t.modify k' f).erase k = (t.erase k).modify k' f := by
  simp only [erase, modify, List.filter_map]
  congr 2
  exact List.filter_congr fun p _ => by by_cases hp : p.1 = k' <;> simp [hp]

theorem erase_modify_self (t : Tree) (k : Key) (f : Entry → Entry) :
    (t.modify k f).erase k = t.erase k := by
  rw [erase_modify]
  have hid : ∀ p ∈ (t.erase k).entries, (if p.1 = k then (p.1, f p.2) else p) = p := by
    intro p hp
    have hne : p.1 ≠ k := by simpa using (List.mem_filter.1 hp).2
    simp [hne]
  simp only [modify, List.map_congr_left hid, List.map_id']

theorem get?_erase_of_ne {k k' : Key} (h : k' ≠ k) (t : Tree) :
    (t.erase k).get? k' = t.get? k' := by
  rw [get?_erase, if_neg h]

theorem erase_put {k k' : Key} (h : k' ≠ k) (t : Tree) (e : Entry) :
    (t.put k' e).erase k = (t.erase k).put k' e := by
  unfold put
  rw [get?_erase_of_ne h]
  split
  · exact erase_modify t k k' _
  · exact erase_add h t e

theorem erase_of_get?_eq_none {k : Key} (h : t.get? k = none) : t.erase k = t := by
  have hne : ∀ p ∈ t.entries, (p.1 != k) = true := by
    intro p hp
    have := List.lookup_eq_none_iff.1 h p hp
    rw [bne_iff_ne] at this ⊢
    exact this.symm
  simp [erase, List.filter_eq_self.2 hne]

theorem mem_entries_of_get? {k : Key} {e : Entry} (h : t.get? k = some e) :
    (k, e) ∈ t.entries := by
  obtain ⟨before, after, hsplit, -⟩ := List.lookup_eq_some_iff.1 h
  simp [hsplit]

/-- No entry has the name, and no link leads through it. -/
structure Unused (name : String) (t : Tree) : Prop where
  entry : ∀ p ∈ t.entries, p.1.head? ≠ some name
  link : ∀ p ∈ t.entries, ∀ target, p.2 = .link target → name ∉ steps target

namespace Unused

theorem get?_eq_none (h : t.Unused name) (dir : Key) : t.get? (name :: dir) = none := by
  cases hg : t.get? (name :: dir) with
  | none => rfl
  | some e => exact absurd rfl (h.entry _ (mem_entries_of_get? hg))

theorem add (h : t.Unused name) {k : Key} {e : Entry} (hk : k.head? ≠ some name)
    (he : ∀ target, e = .link target → name ∉ steps target) : (t.add k e).Unused name where
  entry p hp := by
    rcases List.mem_append.1 hp with hp | hp
    · exact h.entry p hp
    · rw [List.mem_singleton.1 hp]
      exact hk
  link p hp := by
    rcases List.mem_append.1 hp with hp | hp
    · exact h.link p hp
    · rw [List.mem_singleton.1 hp]
      exact he

theorem of_subset (h : t.Unused name) {u : Tree} (hu : u.entries ⊆ t.entries) :
    u.Unused name where
  entry p hp := h.entry p (hu hp)
  link p hp := h.link p (hu hp)

theorem eraseBelow (h : t.Unused name) (k : Key) : (t.eraseBelow k).Unused name :=
  h.of_subset (List.filter_sublist.subset)

theorem putFile (h : t.Unused name) {k : Key} (hk : k.head? ≠ some name) (mode : Nat)
    (content : Bytes) : (t.put k (.file mode content)).Unused name := by
  unfold put
  split
  · constructor
    · intro p hp
      obtain ⟨q, hq, rfl⟩ := List.mem_map.1 hp
      have := h.entry q hq
      split <;> exact this
    · intro p hp target
      obtain ⟨q, hq, rfl⟩ := List.mem_map.1 hp
      split
      · simp
      · exact h.link q hq target
  · exact h.add hk (by simp)

theorem not_mem_steps (h : t.Unused name) (hn : IsName name) {cwd d : Key} {path : String}
    (hd : t.directoryAt cwd path = some d) : name ∉ steps path := by
  intro hmem
  have hleads := directoryAt_eq_some_iff.1 hd
  rcases hleads.exists_entry name (List.mem_append_left _ hmem) with hi | hu | ⟨k, hk⟩
  · exact hn.not_isIdle hi
  · exact hn.ne_dots hu
  · simp [h.get?_eq_none k] at hk

end Unused

/-- The tree `u` with at most one entry more: a file under a name that `u` does not use. -/
structure Beside (name : String) (dir : Key) (mode : Nat) (content : Bytes) (t u : Tree) :
    Prop where
  erased : t.erase (name :: dir) = u
  unused : u.Unused name
  entry : t.get? (name :: dir) = none ∨ t.get? (name :: dir) = some (.file mode content)

namespace Beside

variable {u : Tree} {mode : Nat} {content : Bytes} {path : String}

theorem get?_eq (h : Beside name dir mode content t u) {k : Key} (hk : k.head? ≠ some name) :
    u.get? k = t.get? k := by
  rw [← h.erased]
  exact get?_erase_of_ne (fun he => hk (by simp [he])) t

theorem sealed_eq (h : Beside name dir mode content t u) : u.sealed = t.sealed := by
  rw [← h.erased]
  rfl

theorem isDir_eq (h : Beside name dir mode content t u) (k : Key) : u.isDir k = t.isDir k := by
  by_cases hk : k = name :: dir
  · subst hk
    have hu : u.get? (name :: dir) = none := h.unused.get?_eq_none dir
    rcases h.entry with ht | ht <;> simp [isDir, hu, ht, Entry.isDir]
  · rw [isDir, isDir, ← h.erased, get?_erase_of_ne hk]

theorem walk_eq (h : Beside name dir mode content t u) (n : Nat) (d : Key) {ss : List String}
    (hs : name ∉ ss) : u.walk n d ss = t.walk n d ss := by
  induction n using Nat.strongRecOn generalizing d ss with
  | ind n ihn =>
    induction ss generalizing d with
    | nil => rw [walk_nil, walk_nil]
    | cons step rest ih =>
      have hne : step ≠ name := fun he => hs (by simp [he])
      have hrest : name ∉ rest := fun hr => hs (by simp [hr])
      by_cases hi : IsIdle step
      · rw [walk_idle _ _ _ hi, walk_idle _ _ _ hi, ih d hrest]
      · by_cases hu : step = ".."
        · rw [hu, walk_up, walk_up, ih d.tail hrest]
        · have hg : u.get? (step :: d) = t.get? (step :: d) := h.get?_eq (by simpa using hne)
          rw [walk_name _ _ _ hi hu, walk_name _ _ _ hi hu, hg, ih (step :: d) hrest]
          cases he : t.get? (step :: d) with
          | none => rfl
          | some e =>
            cases e with
            | dir => rfl
            | file m bytes => rfl
            | link target =>
              have hmem := mem_entries_of_get? (hg.trans he)
              have htarget : name ∉ steps target := h.unused.link _ hmem target rfl
              cases n with
              | zero => rfl
              | succ m =>
                simp only [jump]
                rw [ihn m (by omega) _ (by simp [htarget, hrest])]

theorem locateParent_eq (h : Beside name dir mode content t u) (hn : IsName name) (cwd : Key)
    (hp : name ∉ steps path) : u.locateParent cwd path = t.locateParent cwd path := by
  have hdirs : name ∉ (splitLast path).1 := by
    intro hmem
    rcases mem_steps_of_splitLast hmem with he | hs
    · exact hn.ne_empty he
    · exact hp hs
  simp only [locateParent, h.walk_eq _ _ hdirs]

theorem locateParent_eq_of_parent (h : Beside name dir mode content t u) (hn : IsName name)
    (cwd : Key) {up : String} (hup : FilePath.parent? path = some up) (hp : name ∉ steps up)
    {d : Key} {n : String} {slash : Bool}
    (hl : t.locateParent cwd path = .ok (d, .name n slash)) :
    u.locateParent cwd path = .ok (d, .name n slash) := by
  obtain ⟨-, hlast, -⟩ := locateParent_eq_ok_iff.1 hl
  have havoid : name ∉ steps up ++ [""] := by simp [hp, hn.ne_empty]
  rw [locateParent_name_iff hup hlast] at hl ⊢
  rw [directoryAt, h.walk_eq _ _ havoid]
  exact hl

theorem pathIsDir_eq (h : Beside name dir mode content t u) (cwd : Key) (hp : name ∉ steps path) :
    u.pathIsDir cwd path = t.pathIsDir cwd path := by
  have hloc : u.locate cwd path = t.locate cwd path := by
    simp only [locate, h.walk_eq _ _ hp]
  simp only [pathIsDir, stat, hloc]
  cases t.locate cwd path with
  | error e => rfl
  | ok k =>
    have hk := h.isDir_eq k
    simp only [isDir] at hk
    cases hu : u.get? k <;> cases ht : t.get? k <;> simp_all [Except.toOption]

theorem add (h : Beside name dir mode content t u) {k : Key} {e : Entry}
    (hk : k.head? ≠ some name) (he : ∀ target, e = .link target → name ∉ steps target) :
    Beside name dir mode content (t.add k e) (u.add k e) where
  erased := by
    have hne : k ≠ name :: dir := fun h' => hk (by simp [h'])
    rw [erase_add hne, h.erased]
  unused := h.unused.add hk he
  entry := by
    have hne : name :: dir ≠ k := fun h' => hk (by simp [← h'])
    simpa [get?_add, hne] using h.entry

theorem putFile (h : Beside name dir mode content t u) {k : Key} (hk : k.head? ≠ some name)
    (m : Nat) (bytes : Bytes) :
    Beside name dir mode content (t.put k (.file m bytes)) (u.put k (.file m bytes)) where
  erased := by
    have hne : k ≠ name :: dir := fun h' => hk (by simp [h'])
    rw [erase_put hne, h.erased]
  unused := h.unused.putFile hk m bytes
  entry := by
    have hne : name :: dir ≠ k := fun h' => hk (by simp [← h'])
    simpa [get?_put, hne] using h.entry

theorem eraseBelow (h : Beside name dir mode content t u) (k : Key) :
    Beside name dir mode content (t.eraseBelow k) (u.eraseBelow k) where
  erased := by rw [erase_eraseBelow, h.erased]
  unused := h.unused.eraseBelow k
  entry := by
    rw [get?_eraseBelow]
    split
    · exact Or.inl rfl
    · exact h.entry

theorem of_unused (h : u.Unused name) (dir : Key) (mode : Nat) (content : Bytes) :
    Beside name dir mode content (u.add (name :: dir) (.file mode content)) u where
  erased := by rw [erase_add_self, erase_of_get?_eq_none (h.get?_eq_none dir)]
  unused := h
  entry := Or.inr (by simp [get?_add, h.get?_eq_none dir])

theorem append (h : Beside name dir mode content t u) (bytes : Bytes) :
    Beside name dir mode (content ++ bytes) (t.append (name :: dir) bytes) u where
  erased := by rw [Tree.append, erase_modify_self, h.erased]
  unused := h.unused
  entry := by rcases h.entry with ht | ht <;> simp [Tree.append, get?_modify, ht]

theorem erase_of_ne (h : Beside name dir mode content t u) {d : Key} (hd : d ≠ dir) :
    t.erase (name :: d) = t := by
  apply erase_of_get?_eq_none
  have hk : name :: d ≠ name :: dir := by simpa using hd
  rw [← get?_erase_of_ne hk t, h.erased]
  exact h.unused.get?_eq_none d

theorem place_eq (h : Beside name dir mode content t u) (d : Key) (n : String) :
    u.place d n = t.place d n := by
  simp only [place, refusal?, h.sealed_eq]

theorem mem_steps_of_locateParent {cwd d : Key} {n : String} {slash : Bool}
    (h : t.locateParent cwd path = .ok (d, .name n slash)) : n ∈ steps path := by
  obtain ⟨-, hlast, -⟩ := locateParent_eq_ok_iff.1 h
  exact (IsName.of_splitLast (Prod.ext rfl hlast)).2

theorem makeDir (h : Beside name dir mode content t u) (hn : IsName name) (cwd : Key)
    (hp : name ∉ steps path) :
    (∃ e, t.makeDir cwd path = .error e ∧ u.makeDir cwd path = .error e) ∨
      ∃ t' u', t.makeDir cwd path = .ok t' ∧ u.makeDir cwd path = .ok u' ∧
        Beside name dir mode content t' u' := by
  simp only [Tree.makeDir, h.locateParent_eq hn cwd hp, h.place_eq]
  cases hl : t.locateParent cwd path with
  | error e => exact Or.inl ⟨e, rfl, rfl⟩
  | ok r =>
    obtain ⟨d, last⟩ := r
    cases last with
    | dots => exact Or.inl ⟨_, rfl, rfl⟩
    | root => exact Or.inl ⟨_, rfl, rfl⟩
    | name n slash =>
      have hne : n ≠ name := fun he => hp (he ▸ mem_steps_of_locateParent hl)
      have hk : (n :: d).head? ≠ some name := by simpa using hne
      simp only [h.get?_eq hk]
      split
      · exact Or.inl ⟨_, rfl, rfl⟩
      · split
        · exact Or.inl ⟨_, rfl, rfl⟩
        · cases hplace : t.place d n with
          | error e => exact Or.inl ⟨e, rfl, rfl⟩
          | ok k =>
            obtain ⟨-, rfl⟩ := place_eq_ok hplace
            exact Or.inr ⟨_, _, rfl, rfl, h.add hk (by simp)⟩

theorem makeLastDir (h : Beside name dir mode content t u) (hn : IsName name) (cwd : Key)
    (hp : name ∉ steps path) :
    (∃ e, t.makeLastDir cwd path = .error e ∧ u.makeLastDir cwd path = .error e) ∨
      ∃ t' u', t.makeLastDir cwd path = .ok t' ∧ u.makeLastDir cwd path = .ok u' ∧
        Beside name dir mode content t' u' := by
  simp only [Tree.makeLastDir, h.pathIsDir_eq cwd hp]
  rcases h.makeDir hn cwd hp with ⟨e, ht, hu⟩ | ⟨t', u', ht, hu, h'⟩
  · simp only [ht, hu]
    split
    · exact Or.inr ⟨_, _, rfl, rfl, h⟩
    · exact Or.inl ⟨_, rfl, rfl⟩
  · simp only [ht, hu]
    exact Or.inr ⟨_, _, rfl, rfl, h'⟩

theorem makeDirsWithin (h : Beside name dir mode content t u) (hn : IsName name) (cwd : Key)
    (fuel : Nat) (hp : name ∉ steps path) :
    Beside name dir mode content (t.makeDirsWithin cwd fuel path).1
        (u.makeDirsWithin cwd fuel path).1 ∧
      (u.makeDirsWithin cwd fuel path).2 = (t.makeDirsWithin cwd fuel path).2 := by
  induction fuel generalizing t u path with
  | zero => exact ⟨h, rfl⟩
  | succ fuel ih =>
    simp only [Tree.makeDirsWithin]
    split
    · exact ⟨h, rfl⟩
    · rcases h.makeDir hn cwd hp with ⟨e, ht, hu⟩ | ⟨t', u', ht, hu, h'⟩
      · simp only [ht, hu, h.pathIsDir_eq cwd hp]
        split
        · cases hup : FilePath.parent? path with
          | none => exact ⟨h, rfl⟩
          | some up =>
            have hup' : name ∉ steps up := hn.not_mem_parent hup hp
            obtain ⟨h', he⟩ := ih h hup'
            dsimp only
            generalize t.makeDirsWithin cwd fuel up = tr at h' he ⊢
            generalize u.makeDirsWithin cwd fuel up = ur at h' he ⊢
            obtain ⟨t', te⟩ := tr
            obtain ⟨u', ue⟩ := ur
            obtain rfl : ue = te := he
            cases ue with
            | some e => exact ⟨h', rfl⟩
            | none =>
              rcases h'.makeLastDir hn cwd hp with ⟨e, ht, hu⟩ | ⟨t'', u'', ht, hu, h''⟩
              · simp only [ht, hu]
                exact ⟨h', trivial⟩
              · simp only [ht, hu]
                exact ⟨h'', trivial⟩
        · split <;> exact ⟨h, rfl⟩
      · simp only [ht, hu]
        exact ⟨h', trivial⟩

theorem makeDirs (h : Beside name dir mode content t u) (hn : IsName name) (cwd : Key)
    (hp : name ∉ steps path) :
    Beside name dir mode content (t.makeDirs cwd path).1 (u.makeDirs cwd path).1 :=
  (h.makeDirsWithin hn cwd _ hp).1

theorem makeParents (h : Beside name dir mode content t u) (hn : IsName name) (cwd : Key)
    (hp : name ∉ steps path) :
    Beside name dir mode content (t.makeParents cwd path) (u.makeParents cwd path) := by
  unfold Tree.makeParents
  cases hup : FilePath.parent? path with
  | none => exact h
  | some up => exact h.makeDirs hn cwd (hn.not_mem_parent hup hp)

theorem writePlace_eq (h : Beside name dir mode content t u) (hn : IsName name) (fuel : Nat)
    (cwd : Key) (hp : name ∉ steps path) :
    u.writePlace fuel cwd path = t.writePlace fuel cwd path ∧
      ∀ k, t.writePlace fuel cwd path = .ok k → k.head? ≠ some name := by
  induction fuel generalizing cwd path with
  | zero => exact ⟨rfl, by simp [writePlace]⟩
  | succ fuel ih =>
    simp only [writePlace, h.locateParent_eq hn cwd hp]
    cases hl : t.locateParent cwd path with
    | error e => simp
    | ok r =>
      obtain ⟨d, last⟩ := r
      cases last with
      | dots => simp
      | root => simp
      | name n slash =>
        have hne : n ≠ name := fun he => hp (he ▸ mem_steps_of_locateParent hl)
        have hk : (n :: d).head? ≠ some name := by simpa using hne
        have hg := h.get?_eq hk
        simp only [hg]
        split
        · simp
        · split
          · simp
          · split
            · rename_i target he
              have hmem := mem_entries_of_get? (hg.trans he)
              exact ih d (h.unused.link _ hmem target rfl)
            · simp [hne]

theorem writeFile (h : Beside name dir mode content t u) (hn : IsName name) (cwd : Key)
    (hp : name ∉ steps path) (m : Nat) (bytes : Bytes) :
    Beside name dir mode content (t.writeFile cwd path m bytes) (u.writeFile cwd path m bytes) := by
  obtain ⟨heq, havoid⟩ := h.writePlace_eq hn (linkLimit + 1) cwd hp
  simp only [Tree.writeFile, heq]
  cases hw : t.writePlace (linkLimit + 1) cwd path with
  | error e => exact h
  | ok k =>
    simp only [h.isDir_eq k]
    split
    · exact h
    · exact h.putFile (havoid k hw) m bytes

theorem makeLink (h : Beside name dir mode content t u) (hn : IsName name) (cwd : Key)
    (hp : name ∉ steps path) {target : String} (ht : name ∉ steps target) :
    Beside name dir mode content (t.makeLink cwd path target) (u.makeLink cwd path target) := by
  simp only [Tree.makeLink, h.locateParent_eq hn cwd hp]
  split
  · rename_i d n hl
    have hne : n ≠ name := fun he => hp (he ▸ mem_steps_of_locateParent hl)
    have hk : (n :: d).head? ≠ some name := by simpa using hne
    simp only [h.get?_eq hk]
    split
    · exact h
    · exact h.add hk (by simp [ht])
  · exact h

theorem removeAll (h : Beside name dir mode content t u) (hn : IsName name) (cwd : Key)
    (hp : name ∉ steps path) :
    Beside name dir mode content (t.removeAll cwd path) (u.removeAll cwd path) := by
  simp only [Tree.removeAll, h.locateParent_eq hn cwd hp]
  split
  · exact h.eraseBelow _
  · exact h

end Beside

end Tree

/-- The names that a change mentions. -/
def Change.names : Change → List String
  | .write path .. => Tree.steps path
  | .makeDir path => Tree.steps path
  | .link path target => Tree.steps path ++ Tree.steps target
  | .remove path => Tree.steps path

theorem Tree.applyAll_append (t : Tree) (cwd : Key) (as bs : List Change) :
    t.applyAll cwd (as ++ bs) = (t.applyAll cwd as).applyAll cwd bs :=
  List.foldl_append ..

namespace Tree.Beside

variable {t u : Tree} {name : String} {dir : Key} {mode : Nat} {content : Bytes}

theorem entryAt_eq (h : Beside name dir mode content t u) (hn : IsName name) (cwd : Key)
    {path : String} (hp : name ∉ steps path) : u.entryAt cwd path = t.entryAt cwd path := by
  simp only [entryAt, h.locateParent_eq hn cwd hp]
  split
  · rename_i d n slash hl
    have hne : n ≠ name := fun he => hp (he ▸ mem_steps_of_locateParent hl)
    exact h.get?_eq (by simpa using hne)
  · rfl

/-- A change that does not mention the name does the same with the entry and without. -/
theorem apply (h : Beside name dir mode content t u) (hn : IsName name) (cwd : Key) {c : Change}
    (hc : name ∉ c.names) : Beside name dir mode content (t.apply cwd c) (u.apply cwd c) := by
  cases c with
  | write path m bytes => exact (h.makeParents hn cwd hc).writeFile hn cwd hc m bytes
  | makeDir path => exact h.makeDirs hn cwd hc
  | link path target =>
    obtain ⟨hp, ht⟩ := not_or.1 (mt List.mem_append.2 hc)
    exact (h.makeParents hn cwd hp).makeLink hn cwd hp ht
  | remove path => exact h.removeAll hn cwd hc

end Tree.Beside

end ServerLauncher
