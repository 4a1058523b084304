import ServerLauncher.Proofs.Surroundings

/-!
What a download leaves behind that does not complete, at whatever of its exits. Its destination is
never touched, and the staged file is the only trace that it can leave. It leaves it exactly if the
file is still there while its path no longer leads to it, since the file is removed by its path.
-/

namespace ServerLauncher.Download

open ServerLauncher.Tree

/-- What can be seen of a download before its final move, when some steps have been taken. -/
inductive Moment (j : Job) (response : Response) (s : Transfer) : List Step → Transfer → Prop
  | called : Moment j response s [] s
  | answered : Moment j response s [] (fetch j response s).1
  | staged {path : String} {t : Tree} {st : Staged} :
      FilePath.parent? j.destination = some path →
      Staged.create (fetch j response s).1.tree j.workplace path = .ok (t, st) →
      Moment j response s [] { (fetch j response s).1 with tree := t }
  | waiting {pre : List Step} {r : Reception} :
      Midway j response s pre r → Moment j response s pre r.transfer
  | kept {pre : List Step} {r : Reception} {bytes : Bytes} :
      Midway j response s pre r →
      Moment j response s (pre ++ [.chunk bytes]) (r.keep bytes).transfer
  | unwritten {pre : List Step} {r : Reception} {kept : Bytes} {error : FileError} :
      Midway j response s pre r →
      Moment j response s (pre ++ [.unwritten kept error]) (r.keepPart kept).transfer
  | told {r : Reception} {event : Progress.Event} :
      Midway j response s response.steps r →
      Moment j response s response.steps (r.transfer.report event)

/-- At the end of the download the staged file is still there, while its path leads elsewhere or
nowhere. -/
def Stranded (j : Job) (response : Response) (s : Transfer) : Prop :=
  ∃ r, opening j response s = .go r ∧
    r.staged.IsStranded
      (r.staged.absorbAll j.workplace.key r.transfer.tree (taken j response s)) j.workplace

variable {j : Job} {response : Response} {s s' : Transfer} {e : Ending}

theorem stranded_iff {r : Reception} (hopen : opening j response s = .go r) :
    Stranded j response s ↔
      r.staged.IsStranded
        (r.staged.absorbAll j.workplace.key r.transfer.tree (taken j response s)) j.workplace := by
  constructor
  · rintro ⟨r', hopen', h⟩
    obtain rfl := Turn.go.inj (hopen.symm.trans hopen')
    exact h
  · exact fun h => ⟨r, hopen, h⟩

/-- At any moment the tree is the one that the changes from outside have made, or has the staged
file beside that, in the directory of the destination. -/
theorem Moment.tree_cases {pre : List Step} {m : Transfer} (h : Moment j response s pre m)
    (hpre : pre <+: response.steps) (hown : OwnName j response s.tree) :
    m.tree = treeWithout j s pre ∨
      ∃ path dir content, FilePath.parent? j.destination = some path ∧
        s.tree.directoryAt j.workplace.key path = some dir ∧
        Beside (Staged.freshName s.tree) dir Staged.mode content m.tree
          (treeWithout j s pre) := by
  cases h with
  | called => exact Or.inl rfl
  | answered => exact Or.inl (fetch_spec j response s).1
  | @staged path t st hpath hmade =>
    rw [(fetch_spec j response s).1] at hmade
    obtain ⟨dir, hdir, -, -, hbeside⟩ := Staged.create_eq_ok hmade
    exact Or.inr ⟨path, dir, _, hpath, hdir, hbeside⟩
  | waiting hmid =>
    obtain ⟨path, dir, hpath, hdir, -, hbeside⟩ := hmid.beside hpre hown.changes
    exact Or.inr ⟨path, dir, _, hpath, hdir, hbeside⟩
  | @kept pre r bytes hmid =>
    obtain ⟨path, dir, hpath, hdir, hst, hbeside⟩ :=
      hmid.beside ((List.prefix_append pre _).trans hpre) hown.changes
    refine Or.inr ⟨path, dir, Response.content pre ++ bytes, hpath, hdir, ?_⟩
    rw [(r.keep_spec bytes).1, treeWithout, Response.changes_append, applyAll_append]
    exact Staged.beside_write hbeside hst bytes
  | @unwritten pre r kept error hmid =>
    obtain ⟨path, dir, hpath, hdir, hst, hbeside⟩ :=
      hmid.beside ((List.prefix_append pre _).trans hpre) hown.changes
    refine Or.inr ⟨path, dir, Response.content pre ++ kept, hpath, hdir, ?_⟩
    rw [treeWithout, Response.changes_append, applyAll_append]
    exact Staged.beside_write hbeside hst kept
  | told hmid =>
    obtain ⟨path, dir, hpath, hdir, -, hbeside⟩ := hmid.beside hpre hown.changes
    exact Or.inr ⟨path, dir, _, hpath, hdir, hbeside⟩

/-- A download that does not complete leaves the tree that the changes from outside have made, or a
stranded file beside that. -/
theorem tree_cases_of_not_completed (hown : OwnName j response s.tree)
    (hrun : run j response s = (s', e)) (hne : ∀ n, e ≠ .completed n) :
    (¬Stranded j response s ∧ s'.tree = treeWithout j s (taken j response s)) ∨
      Stranded j response s ∧ ∃ r dir content, opening j response s = .go r ∧
        r.staged.key = Staged.freshName s.tree :: dir ∧ (s'.tree.get? r.staged.key).isSome ∧
        Beside (Staged.freshName s.tree) dir Staged.mode content s'.tree
          (treeWithout j s (taken j response s)) := by
  rcases tree_of_not_completed hrun hne with ⟨hopen, htree, htaken⟩ | ⟨r, hopen, htree⟩
  · refine Or.inl ⟨?_, ?_⟩
    · rintro ⟨r, hopen', -⟩
      rw [hopen] at hopen'
      cases hopen'
    · rw [htree, htaken]
      rfl
  · obtain ⟨dir, hst, hbeside⟩ := beside_taken hopen hown.changes
    obtain ⟨hleft, hgone⟩ := Staged.discard_eq hbeside hst (w := j.workplace)
    rw [stranded_iff hopen, htree]
    by_cases hs : r.staged.IsStranded
        (r.staged.absorbAll j.workplace.key r.transfer.tree (taken j response s)) j.workplace
    · refine Or.inr ⟨hs, r, dir, Response.content (taken j response s), hopen, hst.key, ?_, ?_⟩
      · rw [hleft hs]
        exact hs.1
      · rw [hleft hs]
        exact hbeside
    · exact Or.inl ⟨hs, hgone hs⟩

theorem tree_eq_of_no_changes (hquiet : Response.changes response.steps = [])
    (hrun : run j response s = (s', e)) (hne : ∀ n, e ≠ .completed n) : s'.tree = s.tree := by
  rcases tree_of_not_completed hrun hne with ⟨-, htree, -⟩ | ⟨r, hopen, htree⟩
  · exact htree
  · have hsame : treeWithout j s (taken j response s) = s.tree := by
      obtain ⟨post, hpost⟩ := taken_prefix j response s
      rw [← hpost, Response.changes_append] at hquiet
      rw [treeWithout, (List.append_eq_nil_iff.1 hquiet).1]
      rfl
    obtain ⟨path, -, -, -, hmade, -⟩ := opening_go hopen
    obtain ⟨-, -, -, hreach, -⟩ := Staged.create_eq_ok hmade
    obtain ⟨dir, hst, hbeside⟩ := beside_taken hopen (by simp [hquiet])
    rw [hsame] at hbeside
    rw [htree]
    refine (Staged.discard_eq hbeside hst).2 fun hs => hs.2 ?_
    exact (Staged.isReachable_iff hbeside hst).2 hreach

/-- A download never touches its destination before the final move. If it does not complete, it
leaves no trace but the changes from outside, unless its staged file is stranded; such a file is
then all that it leaves. -/
theorem no_trace_iff_not_stranded (hown : OwnName j response s.tree) :
    (∀ pre m, pre <+: response.steps → Moment j response s pre m →
        m.tree.entryAt j.workplace.key j.destination =
            (treeWithout j s pre).entryAt j.workplace.key j.destination ∧
          (m.tree = treeWithout j s pre ∨
            ∃ path dir, FilePath.parent? j.destination = some path ∧
              s.tree.directoryAt j.workplace.key path = some dir ∧
              m.tree.erase (Staged.freshName s.tree :: dir) = treeWithout j s pre)) ∧
      taken j response s <+: response.steps ∧
      ∀ s' e, run j response s = (s', e) → (∀ n, e ≠ .completed n) →
        s'.tree.entryAt j.workplace.key j.destination =
            (treeWithout j s (taken j response s)).entryAt j.workplace.key j.destination ∧
          (s'.tree = treeWithout j s (taken j response s) ↔ ¬Stranded j response s) ∧
          (Stranded j response s → ∃ r, opening j response s = .go r ∧
            s'.tree.erase r.staged.key = treeWithout j s (taken j response s)) := by
  have hn := Staged.isName_freshName s.tree
  refine ⟨?_, taken_prefix j response s, ?_⟩
  · intro pre m hpre hm
    rcases hm.tree_cases hpre hown with h | ⟨path, dir, content, hpath, hdir, hbeside⟩
    · exact ⟨by rw [h], Or.inl h⟩
    · exact ⟨(hbeside.entryAt_eq hn _ hown.destination).symm,
        Or.inr ⟨path, dir, hpath, hdir, hbeside.erased⟩⟩
  · intro s' e hrun hne
    rcases tree_cases_of_not_completed hown hrun hne with
      ⟨hs, htree⟩ | ⟨hs, r, dir, content, hopen, hkey, hthere, hbeside⟩
    · exact ⟨by rw [htree], ⟨fun _ => hs, fun _ => htree⟩, fun h => absurd h hs⟩
    · refine ⟨(hbeside.entryAt_eq hn _ hown.destination).symm, ⟨?_, absurd hs⟩, ?_⟩
      · intro htree
        rw [hkey, htree, hbeside.unused.get?_eq_none dir] at hthere
        cases hthere
      · intro _
        exact ⟨r, hopen, by rw [hkey, hbeside.erased]⟩

/-- A destination whose path goes through a directory and out of it again. -/
def detour : Job := ⟨⟨[], "/"⟩, "u", "a/../x", ⟨1, 0⟩⟩

/-- The directory is removed before the body breaks off. -/
def brokenResponse : Response :=
  { steps := [.chunk [97, 98], .change (.remove "a"), .fail (.body "gone")] }

def detourStart : Transfer := .start ⟨[(["a"], .dir)], []⟩ {} false

/-- A failed download that leaves more than the changes from outside. -/
theorem failed_run_leaves_staged_file :
    (run detour brokenResponse detourStart).2 = .failed (.transport (.body "gone")) ∧
      treeWithout detour detourStart brokenResponse.steps = ⟨[], []⟩ ∧
      (run detour brokenResponse detourStart).1.tree =
        ⟨[([".tmp0000000000"], .file 0o755 [97, 98])], []⟩ := by
  decide +kernel

theorem stranded_detour :
    OwnName detour brokenResponse detourStart.tree ∧
      Stranded detour brokenResponse detourStart := by
  have hown : OwnName detour brokenResponse detourStart.tree :=
    ⟨by decide +kernel, by decide +kernel⟩
  refine ⟨hown, Classical.byContradiction fun hs => ?_⟩
  have hrun : run detour brokenResponse detourStart =
      ((run detour brokenResponse detourStart).1, .failed (.transport (.body "gone"))) := by
    decide +kernel
  obtain ⟨-, -, hend⟩ := no_trace_iff_not_stranded hown
  have htree := (hend _ _ hrun (by simp)).2.1.2 hs
  exact absurd htree (by decide +kernel)

end ServerLauncher.Download
