import ServerLauncher.Proofs.Diversion
import ServerLauncher.Proofs.Staging

/-!
The tree that several downloads to one destination work in. It differs from the tree that they found
in the entry of the destination, once a body has been installed, and in staged files that are still
held. The way to the directory of the destination stays open until a body is installed, and beyond
that unless it leads through the destination itself.
-/

namespace ServerLauncher

open ServerLauncher.Tree

/-- A destination, and the workplace that its path is taken from. -/
structure Goal where
  workplace : Workplace
  destination : String
  deriving DecidableEq, Repr

namespace Goal

/-- The place that the path of the destination names. -/
def IsPlace (g : Goal) (t : Tree) (k : Key) : Prop :=
  ∃ d n, t.locateParent g.workplace.key g.destination = .ok (d, .name n false) ∧ k = n :: d

/-- The way to the directory of the destination leads through the destination itself, which is a
link then. -/
def IsTangled (g : Goal) (t : Tree) : Prop :=
  ∃ k up, g.IsPlace t k ∧ FilePath.parent? g.destination = some up ∧
    (t.erase k).directoryAt g.workplace.key up = none

/-- A file staged for the destination in the directory `d` with the path `up`, under a name of its
own. -/
structure Stages (g : Goal) (t : Tree) (up : String) (d : Key) (st : Staged) : Prop where
  parent : FilePath.parent? g.destination = some up
  directory : t.directoryAt g.workplace.key up = some d
  named : ∃ name, IsName name ∧ name ∉ steps g.destination ∧ st.path = FilePath.join up name ∧
    st.key = name :: d
  fault : pathFault? st.path = none
  free : t.get? st.key = none

/-- The tree `u` that downloads have made of the tree `t`: with a body installed or not, and with
staged files at some keys. -/
structure Shared (g : Goal) (t : Tree) (body? : Option Bytes) (held : Key → Prop) (u : Tree) :
    Prop where
  sealed : u.sealed = t.sealed
  replaced : body?.isSome → ∃ k, g.IsPlace t k ∧ t.isDir k = false
  place : ∀ k, g.IsPlace t k →
    u.get? k = (body?.map fun body => .file 0o755 body).or (t.get? k)
  other : ∀ k, ¬g.IsPlace t k → u.get? k = t.get? k ∨
    t.get? k = none ∧ held k ∧ ∃ mode content, u.get? k = some (.file mode content)

variable {g : Goal} {t u u' : Tree} {k : Key} {up : String} {d : Key} {st : Staged} {e : Entry}
  {body? : Option Bytes} {held held' : Key → Prop}

theorem IsPlace.unique {k' : Key} (h : g.IsPlace t k) (h' : g.IsPlace t k') : k = k' := by
  obtain ⟨d, n, hl, rfl⟩ := h
  obtain ⟨d', n', hl', rfl⟩ := h'
  obtain ⟨rfl, hlast⟩ := Prod.mk.inj (Except.ok.inj (hl.symm.trans hl'))
  rw [(LastStep.name.inj hlast).1]

theorem isPlace_iff {d : Key} {n : String} (hup : FilePath.parent? g.destination = some up)
    (hlast : (splitLast g.destination).2 = .name n false) :
    g.IsPlace t (n :: d) ↔
      pathFault? g.destination = none ∧ t.directoryAt g.workplace.key up = some d := by
  rw [← locateParent_name_iff hup hlast]
  constructor
  · rintro ⟨d', n', hl, hk⟩
    obtain ⟨rfl, rfl⟩ := List.cons.inj hk
    exact hl
  · exact fun hl => ⟨d, n, hl, rfl⟩

theorem Stages.not_isPlace (h : g.Stages t up d st) : ¬g.IsPlace t st.key := by
  rintro ⟨d', n, hl, hk⟩
  obtain ⟨name, -, havoid, -, hkey⟩ := h.named
  obtain ⟨rfl, -⟩ := List.cons.inj (hkey.symm.trans hk)
  exact havoid (Beside.mem_steps_of_locateParent hl)

namespace Shared

theorem start (g : Goal) (t : Tree) (held : Key → Prop) : g.Shared t none held t where
  sealed := rfl
  replaced h := by cases h
  place _ _ := rfl
  other _ _ := Or.inl rfl

theorem mono (h : g.Shared t body? held u) (hheld : ∀ k, held k → held' k) :
    g.Shared t body? held' u where
  sealed := h.sealed
  replaced := h.replaced
  place := h.place
  other k hk := (h.other k hk).imp_right fun ⟨ht, hk', hfile⟩ => ⟨ht, hheld k hk', hfile⟩

theorem patched (h : g.Shared t body? held u) : Patched t u where
  sealed := h.sealed
  entry k := by
    by_cases hk : g.IsPlace t k
    · rw [h.place k hk]
      cases body? with
      | none => exact Or.inl rfl
      | some body => exact Or.inr ⟨_, _, rfl⟩
    · exact (h.other k hk).imp_right fun hfile => hfile.2.2

theorem kept (h : g.Shared t body? held u) (hk : t.get? k = some e)
    (hor : body? = none ∨ ¬g.IsPlace t k) : u.get? k = some e := by
  by_cases hplace : g.IsPlace t k
  · rw [h.place k hplace, hor.resolve_right (not_not_intro hplace), hk]
    rfl
  · rcases h.other k hplace with hsame | ⟨hnone, -⟩
    · rw [hsame, hk]
    · rw [hnone] at hk
      cases hk

theorem isDir_eq (h : g.Shared t body? held u) (hk : g.IsPlace t k) : u.isDir k = t.isDir k := by
  cases hbody : body? with
  | none => rw [isDir, h.place k hk, hbody]; rfl
  | some body =>
    obtain ⟨k', hk', hdir⟩ := h.replaced (by rw [hbody]; rfl)
    obtain rfl := hk.unique hk'
    rw [hdir, isDir, h.place k hk, hbody]
    rfl

/-- The way stays open as long as no body is installed in the middle of it. -/
theorem directoryAt_of_open (h : g.Shared t body? held u)
    (hup : FilePath.parent? g.destination = some up)
    (hd : t.directoryAt g.workplace.key up = some d)
    (hopen : ¬(body?.isSome ∧ g.IsTangled t)) : u.directoryAt g.workplace.key up = some d := by
  by_cases hbody : body?.isSome = true
  · obtain ⟨k, hk, -⟩ := h.replaced hbody
    cases hway : (t.erase k).directoryAt g.workplace.key up with
    | none => exact absurd ⟨hbody, k, up, hk, hup, hway⟩ hopen
    | some d' =>
      have herase : ∀ q e, (t.erase k).get? q = some e → q ≠ k ∧ t.get? q = some e := by
        intro q e hq
        rw [get?_erase] at hq
        split at hq
        · cases hq
        · exact ⟨by assumption, hq⟩
      have ht := directoryAt_mono (fun q e hq => (herase q e hq).2) hway
      obtain rfl := Option.some.inj (ht.symm.trans hd)
      refine directoryAt_mono (fun q e hq => ?_) hway
      obtain ⟨hne, hq'⟩ := herase q e hq
      exact h.kept hq' (Or.inr fun hplace => hne (hplace.unique hk))
  · have hnone : body? = none := by simpa using hbody
    exact directoryAt_mono (fun q e hq => h.kept hq (Or.inl hnone)) hd

/-- A body installed in the middle of the way cuts it off. -/
theorem directoryAt_of_cut (h : g.Shared t body? held u)
    (hup : FilePath.parent? g.destination = some up)
    (hcut : body?.isSome ∧ g.IsTangled t) : u.directoryAt g.workplace.key up = none := by
  obtain ⟨hbody, k, up', hk, hup', hnone⟩ := hcut
  obtain rfl := Option.some.inj (hup.symm.trans hup')
  have hpatched : Patched (t.erase k) u := by
    refine ⟨h.sealed, ?_⟩
    intro q
    by_cases hq : q = k
    · obtain ⟨body, hsome⟩ := Option.isSome_iff_exists.1 hbody
      rw [hq, h.place k hk, hsome]
      exact Or.inr ⟨_, _, rfl⟩
    · rw [get?_erase_of_ne hq]
      exact h.patched.entry q
  cases hway : u.directoryAt g.workplace.key up with
  | none => rfl
  | some d =>
    have hd := hpatched.directoryAt_of_directoryAt hway
    rw [hnone] at hd
    cases hd

theorem set (h : g.Shared t body? held u) (hst : g.Stages t up d st)
    (hsealed : u'.sealed = u.sealed) (hother : ∀ k, k ≠ st.key → u'.get? k = u.get? k)
    (hheld : ∀ k, k ≠ st.key → held k → held' k)
    (hown : u'.get? st.key = none ∨
      held' st.key ∧ ∃ mode content, u'.get? st.key = some (.file mode content)) :
    g.Shared t body? held' u' where
  sealed := hsealed.trans h.sealed
  replaced := h.replaced
  place k hk := by
    have hne : k ≠ st.key := fun he => hst.not_isPlace (he ▸ hk)
    rw [hother k hne, h.place k hk]
  other k hk := by
    by_cases hkey : k = st.key
    · subst hkey
      rcases hown with hnone | hfile
      · exact Or.inl (hnone.trans hst.free.symm)
      · exact Or.inr ⟨hst.free, hfile⟩
    · rw [hother k hkey]
      exact (h.other k hk).imp_right fun ⟨ht, hk', hfile⟩ => ⟨ht, hheld k hkey hk', hfile⟩

theorem move (h : g.Shared t body? held u) (hst : g.Stages t up d st) (hk : g.IsPlace t k)
    (hdir : u.isDir k = false) {body : Bytes} (hsealed : u'.sealed = u.sealed)
    (hget : ∀ q, u'.get? q =
      if q = k then some (.file 0o755 body) else if q = st.key then none else u.get? q)
    (hheld : ∀ q, q ≠ st.key → held q → held' q) : g.Shared t (some body) held' u' where
  sealed := hsealed.trans h.sealed
  replaced _ := ⟨k, hk, (h.isDir_eq hk).symm.trans hdir⟩
  place q hq := by
    obtain rfl := hq.unique hk
    rw [hget, if_pos rfl]
    rfl
  other q hq := by
    have hne : q ≠ k := fun he => hq (he ▸ hk)
    rw [hget, if_neg hne]
    by_cases hkey : q = st.key
    · rw [if_pos hkey, hkey]
      exact Or.inl hst.free.symm
    · rw [if_neg hkey]
      exact (h.other q hq).imp_right fun ⟨ht, hq', hfile⟩ => ⟨ht, hheld q hkey hq', hfile⟩

/-- A new staged file has a name that no other has. -/
theorem create (h : g.Shared t body? held u) (hup : FilePath.parent? g.destination = some up)
    (hown : ∀ m, Staged.numbered m ∉ steps g.destination)
    (hmade : Staged.create u g.workplace up = .ok (u', st)) :
    (∃ d, g.Stages t up d st) ∧ u.get? st.key = none ∧
      u' = u.add st.key (.file Staged.mode []) := by
  obtain ⟨d, last, hloc, -, rfl, rfl⟩ := Staged.create_made hmade
  have hn := Staged.isName_freshName u
  obtain ⟨⟨m, hm, -⟩, -⟩ := Staged.freshName_spec u
  obtain ⟨hfault, -, hd⟩ := (locateParent_join_iff hn).1 hloc
  have havoid : Staged.freshName u ∉ steps g.destination := hm ▸ hown m
  have hnone := (Staged.unused_freshName u).get?_eq_none d
  have hplace : ¬g.IsPlace t (Staged.freshName u :: d) := by
    rintro ⟨d', n, hl, hk⟩
    rw [(List.cons.inj hk).1] at havoid
    exact havoid (Beside.mem_steps_of_locateParent hl)
  have hfree : t.get? (Staged.freshName u :: d) = none := by
    cases hg : t.get? (Staged.freshName u :: d) with
    | none => rfl
    | some e =>
      rw [h.kept hg (Or.inr hplace)] at hnone
      cases hnone
  exact ⟨⟨d, hup, h.patched.directoryAt_of_directoryAt hd, ⟨_, hn, havoid, rfl, rfl⟩, hfault,
    hfree⟩, hnone, rfl⟩

end Shared

namespace Stages

/-- The path of a staged file leads to it while the way is open. -/
theorem locateParent_iff (hst : g.Stages t up d st) {d' : Key} {n : String} {slash : Bool} :
    u.locateParent g.workplace.key st.path = .ok (d', .name n slash) ↔
      u.directoryAt g.workplace.key up = some d' ∧ n :: d = st.key ∧ slash = false := by
  obtain ⟨name, hn, -, hpath, hkey⟩ := hst.named
  have hfault := hst.fault
  rw [hpath] at hfault ⊢
  rw [locateParent_join_iff hn, hkey]
  constructor
  · rintro ⟨-, hlast, hd⟩
    obtain ⟨rfl, rfl⟩ := LastStep.name.inj hlast
    exact ⟨hd, rfl, rfl⟩
  · rintro ⟨hd, hk, rfl⟩
    rw [(List.cons.inj hk).1]
    exact ⟨hfault, rfl, hd⟩

theorem discard_of_open (hst : g.Stages t up d st)
    (hd : u.directoryAt g.workplace.key up = some d) {mode : Nat} {content : Bytes}
    (hfile : u.get? st.key = some (.file mode content)) :
    st.discard u g.workplace = u.erase st.key := by
  obtain ⟨name, -, -, -, hkey⟩ := hst.named
  have hloc := (hst.locateParent_iff (u := u)).2 ⟨hd, hkey.symm, rfl⟩
  have hdir : u.isDir (name :: d) = false := by
    rw [isDir, ← hkey, hfile]
    rfl
  simp only [Staged.discard, removeFile, hloc, hdir, hkey]
  rfl

theorem discard_of_cut (hst : g.Stages t up d st)
    (hd : u.directoryAt g.workplace.key up = none) : st.discard u g.workplace = u := by
  rw [Staged.discard, removeFile]
  split
  · rename_i d' n hloc
    rw [(hst.locateParent_iff.1 hloc).1] at hd
    cases hd
  · rfl

theorem commit_eq_ok (hst : g.Stages t up d st) (h : g.Shared t body? held u)
    (hfile : u.get? st.key = some e)
    (hc : st.commit u g.workplace g.destination = .ok u') :
    ∃ k, g.IsPlace t k ∧ u.isDir k = false ∧ u'.sealed = u.sealed ∧
      ∀ q, u'.get? q = if q = k then some e else if q = st.key then none else u.get? q := by
  obtain ⟨sd, sn, ss, td, n, e', hsource, htarget, he, -, hdir, rfl⟩ := moveFile_eq_ok hc
  obtain ⟨hsd, hkey, -⟩ := hst.locateParent_iff.1 hsource
  have hd := h.patched.directoryAt_of_directoryAt hsd
  obtain rfl := Option.some.inj (hst.directory.symm.trans hd)
  rw [hkey, hfile] at he
  obtain rfl := Option.some.inj he
  obtain ⟨-, hlast, -⟩ := locateParent_eq_ok_iff.1 htarget
  obtain ⟨hfault, htd⟩ := (locateParent_name_iff hst.parent hlast).1 htarget
  have hplace : g.IsPlace t (n :: td) := (isPlace_iff hst.parent hlast).2
    ⟨hfault, h.patched.directoryAt_of_directoryAt htd⟩
  have hne : st.key ≠ n :: td := fun heq => hst.not_isPlace (heq ▸ hplace)
  refine ⟨n :: td, hplace, hdir, ?_, ?_⟩
  · rw [hkey, if_neg hne]
    rfl
  · intro q
    rw [hkey, if_neg hne, get?_add, get?_erase, get?_erase]
    by_cases hq : q = n :: td
    · simp [hq]
    · simp [hq]

/-- Whether a staged file can be moved is decided by the tree that the downloads have found, as
long as the way is open. -/
theorem commit_isOk_iff (hst : g.Stages t up d st) (h : g.Shared t body? held u)
    (hfile : u.get? st.key = some e) (hd : u.directoryAt g.workplace.key up = some d) :
    (∃ u', st.commit u g.workplace g.destination = .ok u') ↔
      ∃ n, g.IsPlace t (n :: d) ∧ n.utf8ByteSize ≤ 255 ∧ t.isDir (n :: d) = false ∧
        t.refusal? d = none := by
  obtain ⟨name, -, -, -, hkey⟩ := hst.named
  have hsource := (hst.locateParent_iff (u := u)).2 ⟨hd, hkey.symm, rfl⟩
  rw [hkey] at hfile
  have hrefusal : ∀ dir, u.refusal? dir = t.refusal? dir := fun dir => by
    rw [refusal?, refusal?, h.sealed]
  rw [Staged.commit, moveFile_isOk_iff hsource hfile]
  constructor
  · rintro ⟨td, n, htarget, hsize, hdir, hsealed, -⟩
    obtain ⟨-, hlast, -⟩ := locateParent_eq_ok_iff.1 htarget
    obtain ⟨hfault, htd⟩ := (locateParent_name_iff hst.parent hlast).1 htarget
    obtain rfl := Option.some.inj (hd.symm.trans htd)
    have hplace := (isPlace_iff hst.parent hlast).2 ⟨hfault, hst.directory⟩
    exact ⟨n, hplace, hsize, (h.isDir_eq hplace).symm.trans hdir, (hrefusal d).symm.trans hsealed⟩
  · rintro ⟨n, hplace, hsize, hdir, hsealed⟩
    obtain ⟨d', n', hloc, heq⟩ := id hplace
    obtain ⟨rfl, rfl⟩ := List.cons.inj heq
    obtain ⟨-, hlast, -⟩ := locateParent_eq_ok_iff.1 hloc
    obtain ⟨hfault, -⟩ := (locateParent_name_iff hst.parent hlast).1 hloc
    have htarget := (locateParent_name_iff hst.parent hlast).2 ⟨hfault, hd⟩
    exact ⟨d, n, htarget, hsize, (h.isDir_eq hplace).trans hdir, (hrefusal d).trans hsealed,
      (hrefusal d).trans hsealed⟩

end Stages

end Goal

end ServerLauncher
