import ServerLauncher.Proofs.Apart

/-!
Ways that are cut off. Where files have taken the place of other entries, a way to a directory leads
where it did, or it ends at one of the files. If no directory has given way to a file, the way led
through a link in the place of that file. No new way comes about.
-/

namespace ServerLauncher

namespace Tree

variable {t u : Tree} {cwd d : Key} {path : String}

namespace Patched

/-- A way to a directory goes by no file, so it was there before. -/
theorem leads_of_leads (h : Patched t u) {n : Nat} {dir : Key} {xs : List String}
    (hl : Leads u n dir (xs ++ [""]) d) : Leads t n dir (xs ++ [""]) d := by
  have keep {k : Key} {e : Entry} (hg : u.get? k = some e) (he : e.isFile = false) :
      t.get? k = some e := by
    rcases h.entry k with hsame | ⟨mode, content, hfile⟩
    · rw [← hsame, hg]
    · rw [hfile] at hg
      rw [← Option.some.inj hg] at he
      cases he
  have hlast := EndsIdle.slash xs
  generalize xs ++ [""] = ss at hl hlast
  induction hl with
  | nil n dir => exact .nil n dir
  | idle hi _ ih => exact .idle hi (ih hlast.tail)
  | up _ ih => exact .up (ih hlast.tail)
  | down hi hu hs hg _ ih => exact .down hi hu hs (keep hg rfl) (ih hlast.tail)
  | @file n dir step mode content hi hu hs hg => exact absurd (hlast step rfl) hi
  | link hi hu hs hg _ ih =>
    exact .link hi hu hs (keep hg rfl) (ih (hlast.tail.append (hlast.ne_nil hi) _))

theorem directoryAt_of_directoryAt (h : Patched t u) (hd : u.directoryAt cwd path = some d) :
    t.directoryAt cwd path = some d :=
  directoryAt_eq_some_iff.2 (h.leads_of_leads (directoryAt_eq_some_iff.1 hd))

end Patched

/-- The tree with files in the place of some links and files, or where nothing was. -/
structure Overlaid (t u : Tree) : Prop where
  sealed : u.sealed = t.sealed
  entry : ∀ k, u.get? k = t.get? k ∨
    t.isDir k = false ∧ ∃ mode content, u.get? k = some (.file mode content)

namespace Overlaid

theorem refl (t : Tree) : Overlaid t t :=
  ⟨rfl, fun _ => Or.inl rfl⟩

theorem patched (h : Overlaid t u) : Patched t u where
  sealed := h.sealed
  entry k := (h.entry k).imp_right And.right

theorem install (h : Overlaid t u) {v : Tree} {k : Key} {mode : Nat} {content : Bytes}
    (hdir : u.isDir k = false) (hget : v.get? k = some (.file mode content))
    (herase : v.erase k = u.erase k) : Overlaid t v where
  sealed := (congrArg Tree.sealed herase).trans h.sealed
  entry q := by
    by_cases hq : q = k
    · subst hq
      refine Or.inr ⟨?_, mode, content, hget⟩
      rcases h.entry q with hsame | ⟨ht, -⟩
      · rwa [isDir, hsame] at hdir
      · exact ht
    · have hsame : v.get? q = u.get? q := by
        rw [← get?_erase_of_ne hq v, herase, get?_erase_of_ne hq]
      rw [hsame]
      exact h.entry q

theorem pathIsDir (h : Overlaid t u) (hdir : t.pathIsDir cwd path = true)
    (hd : u.directoryAt cwd path = some d) : u.pathIsDir cwd path = true := by
  obtain ⟨hfault, k, hleads, hk⟩ := pathIsDir_iff.1 hdir
  have hisDir : t.isDir k = true := by simp [isDir, hk, Entry.isDir]
  have htd := h.patched.directoryAt_of_directoryAt hd
  rw [directoryAt_eq_some_iff.2 (hleads.slash hisDir)] at htd
  obtain rfl := Option.some.inj htd
  obtain ⟨m, hm⟩ := (directoryAt_eq_some_iff.1 hd).append
  have hwalk : u.walk linkLimit (origin cwd path) (steps path) = .ok k := by
    have hnil := hm []
    rwa [List.append_nil, walk_nil] at hnil
  refine pathIsDir_iff.2 ⟨hfault, k, leads_of_walk hwalk, ?_⟩
  rcases h.entry k with hsame | ⟨hnot, -⟩
  · rw [hsame, hk]
  · rw [hisDir] at hnot
    cases hnot

/-- Somewhere a file has taken the place of a link. -/
def Cuts (t u : Tree) (k : Key) : Prop :=
  (∃ target, t.get? k = some (.link target)) ∧ ∃ mode content, u.get? k = some (.file mode content)

/-- A way that leads no more led through a link that has given way to a file. -/
theorem walk_cases (h : Overlaid t u) {n : Nat} {dir : Key} {xs : List String}
    (hl : Leads t n dir (xs ++ [""]) d) :
    u.walk n dir (xs ++ [""]) = .ok d ∨
      ∃ k e, Cuts t u k ∧ (t.erase k).walk n dir (xs ++ [""]) = .error e := by
  have hlast := EndsIdle.slash xs
  generalize xs ++ [""] = ss at hl hlast
  induction hl with
  | nil n dir => exact Or.inl (walk_nil u n dir)
  | @idle n dir d step rest hi _ ih =>
    simp only [walk_idle _ n dir hi]
    exact ih hlast.tail
  | @up n dir d rest _ ih =>
    simp only [walk_up]
    exact ih hlast.tail
  | @down n dir d step rest hi hu hs hg _ ih =>
    have hsame : u.get? (step :: dir) = some .dir := by
      rcases h.entry (step :: dir) with hsame | ⟨hdir, -⟩
      · rw [hsame, hg]
      · simp [isDir, hg, Entry.isDir] at hdir
    rcases ih hlast.tail with hw | ⟨k, e, hcut, hw⟩
    · apply Or.inl
      rw [walk_name u n dir hi hu, if_neg (by omega), hsame]
      exact hw
    · have hne : step :: dir ≠ k := by
        rintro rfl
        obtain ⟨⟨target, htarget⟩, -⟩ := hcut
        rw [hg] at htarget
        cases htarget
      refine Or.inr ⟨k, e, hcut, ?_⟩
      rw [walk_name _ n dir hi hu, if_neg (by omega), get?_erase_of_ne hne, hg]
      exact hw
  | @file n dir step mode content hi hu hs hg => exact absurd (hlast step rfl) hi
  | @link n dir d step target rest hi hu hs hg _ ih =>
    rcases h.entry (step :: dir) with hsame | ⟨-, hfile⟩
    · rcases ih (hlast.tail.append (hlast.ne_nil hi) _) with hw | ⟨k, e, hcut, hw⟩
      · apply Or.inl
        rw [walk_name u _ dir hi hu, if_neg (by omega), hsame, hg]
        exact hw
      · by_cases hk : step :: dir = k
        · refine Or.inr ⟨k, .noEntry, hcut, ?_⟩
          rw [walk_name _ _ dir hi hu, if_neg (by omega), hk, get?_erase, if_pos rfl]
        · refine Or.inr ⟨k, e, hcut, ?_⟩
          rw [walk_name _ _ dir hi hu, if_neg (by omega), get?_erase_of_ne hk, hg]
          exact hw
    · refine Or.inr ⟨step :: dir, .noEntry, ⟨⟨target, hg⟩, hfile⟩, ?_⟩
      rw [walk_name _ _ dir hi hu, if_neg (by omega), get?_erase, if_pos rfl]

theorem directoryAt_cases (h : Overlaid t u) (hd : t.directoryAt cwd path = some d) :
    u.directoryAt cwd path = some d ∨
      ∃ k, Cuts t u k ∧ (t.erase k).directoryAt cwd path = none := by
  rcases h.walk_cases (directoryAt_eq_some_iff.1 hd) with hw | ⟨k, e, hcut, hw⟩
  · exact Or.inl (by rw [directoryAt, hw]; rfl)
  · exact Or.inr ⟨k, hcut, by rw [directoryAt, hw]; rfl⟩

end Overlaid

end Tree

end ServerLauncher
