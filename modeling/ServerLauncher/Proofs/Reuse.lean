import ServerLauncher.Proofs.Ascent
import ServerLauncher.Proofs.Containment
import ServerLauncher.Proofs.Diversion
import ServerLauncher.Proofs.SingleCall

/-!
A server that has been downloaded once. As long as the path to the server directory leads there,
every later call for the tag answers the installed file, and no call for another tag disturbs it.
The path leads elsewhere only if it went through a link in the server directory that has given way
to an installed file; then the server directory cannot be made and the call ends with that error. In
no case there is another request.
-/

namespace ServerLauncher

open ServerLauncher.Tree

/-- The verdict is about what the path leads to and nothing else, and a trial changes no file. -/
structure Probe.Judges (p : Probe) (cwd : Key) (judge : Except FileError Entry → Verdict) :
    Prop where
  verdict : ∀ t path, (p t path).verdict = judge (t.stat cwd path)
  tree : ∀ t path, (p t path).tree = t

theorem Tag.eq_of_text_eq {a b : Tag} (h : a.text = b.text) : a = b := by
  cases a
  cases b
  cases h
  rfl

namespace Acquirer

/-- Calls in their order, each with what came of it. -/
def reports (a : Acquirer) (root : String) : Tree → List Call → List (Call × Report)
  | _, [] => []
  | t, c :: cs =>
    (c, a.call root t c) :: a.reports root (a.call root t c).transfer.tree cs

/-- In `b` the way to the server directory leads through a link in that directory, at the place of a
server, and in `u` there is a file in the place of the link. -/
def IsCutOff (a : Acquirer) (root : String) (b u : Tree) : Prop :=
  ∃ d tag target mode content,
    b.directoryAt a.workplace.key (Release.serverDir root) = some d ∧
    b.get? (a.fileName tag :: d) = some (.link target) ∧
    (b.erase (a.fileName tag :: d)).directoryAt a.workplace.key (Release.serverDir root) = none ∧
    u.get? (a.fileName tag :: d) = some (.file mode content)

/-- The body for a tag has been installed, and nothing but other bodies has come since. -/
structure Settled (a : Acquirer) (root : String) (d : Key) (b : Tree) (tag : Tag) (body : Bytes)
    (h : History) : Prop where
  installed : a.Installed root d b h
  overlaid : Overlaid b h.tree
  last : h.last tag = some body
  fault : pathFault? (a.installPath root tag) = none
  size : (a.fileName tag).utf8ByteSize ≤ 255

variable {a : Acquirer} {root : String} {t b : Tree} {c c₀ : Call} {cs : List Call} {tag : Tag}
  {body : Bytes} {d : Key} {h : History} {judge : Except FileError Entry → Verdict}

namespace Settled

theorem get?_eq (hs : Settled a root d b tag body h) :
    h.tree.get? (a.fileName tag :: d) = some (.file 0o755 body) := by
  rw [hs.installed.entry, hs.last]
  rfl

theorem makeDirs_eq (hs : Settled a root d b tag body h) :
    (h.tree.makeDirs a.workplace.key (Release.serverDir root)).1 = h.tree :=
  (hs.installed.patched.makeDirs hs.installed.isDir (Release.serverDir_ne_empty root)).1

theorem other_call (hs : Settled a root d b tag body h) (hartifact : '/' ∉ a.config.artifact.toList)
    (hc : c.IsQuiet) (hne : c.tag.text ≠ tag.text) :
    Settled a root d b tag body (a.after root h c) := by
  have hlast : (a.after root h c).last tag = some body := (if_neg (Ne.symm hne)).trans hs.last
  have hbase : (a.destination b root c.tag).1 = b := by
    rw [destination_fst, makeDirs_of_pathIsDir hs.installed.isDir]
  have hagrees : a.Agrees root b h := Or.inr ⟨d, hs.installed⟩
  have hafter := hagrees.after hartifact hc
  rw [hbase] at hafter
  rcases hafter with ⟨-, hnone⟩ | ⟨d', hi⟩
  · rw [hnone] at hlast
    cases hlast
  · obtain rfl := Option.some.inj (hs.installed.directory.symm.trans hi.directory)
    refine ⟨hi, ?_, hlast, hs.fault, hs.size⟩
    have htree : (a.destination h.tree root c.tag).1 = h.tree := by
      rw [destination_fst, hs.makeDirs_eq]
    rcases a.call_cases root h.tree hc with
      ⟨-, hsame⟩ | ⟨path, body', d', name, -, -, -, hdir, hget, herase⟩
    · have hsame' : (a.after root h c).tree = h.tree := hsame.trans htree
      rw [hsame']
      exact hs.overlaid
    · rw [htree] at hdir herase
      exact hs.overlaid.install hdir hget herase

theorem isCutOff (hs : Settled a root d b tag body h)
    (hd : h.tree.directoryAt a.workplace.key (Release.serverDir root) ≠ some d) :
    a.IsCutOff root b h.tree := by
  rcases hs.overlaid.directoryAt_cases hs.installed.directory with
    hsame | ⟨k, ⟨⟨target, hlink⟩, mode, content, hfile⟩, hnone⟩
  · exact absurd hsame hd
  · by_cases hk : ∃ tag', k = a.fileName tag' :: d
    · obtain ⟨tag', rfl⟩ := hk
      exact ⟨d, tag', target, mode, content, hs.installed.directory, hlink, hnone, hfile⟩
    · rw [hs.installed.other k fun tag' hkt => hk ⟨tag', hkt⟩, hlink] at hfile
      cases hfile

/-- A call for the tag asks for nothing: it answers what is installed, or the server directory
cannot be made any more. -/
theorem same_call (hs : Settled a root d b tag body h) (hartifact : '/' ∉ a.config.artifact.toList)
    (hc : c.probe.Judges a.workplace.key judge) (hvalid : judge (.ok (.file 0o755 body)) = .valid)
    (htag : c.tag.text = tag.text) :
    (a.call root h.tree c).transfer.tree = h.tree ∧
      (a.call root h.tree c).transfer.requests = [] ∧
      (a.call root h.tree c).transfer.events = [] ∧
      ((a.call root h.tree c).result = .ok (.cached (a.installPath root tag)) ∨
        a.IsCutOff root b h.tree ∧ ∃ e, (a.call root h.tree c).result =
          .error (.file "create directory" (Release.serverDir root) e)) := by
  obtain rfl := Tag.eq_of_text_eq htag
  have hself := hs.makeDirs_eq
  rw [call]
  cases hmade : h.tree.makeDirs a.workplace.key (Release.serverDir root) with
  | mk t fault =>
    rw [hmade] at hself
    obtain rfl : t = h.tree := hself
    cases fault with
    | some e =>
      rw [ensure_of_refused (s := .start h.tree c.cancellation c.paced) hmade]
      refine ⟨rfl, rfl, rfl, Or.inr ⟨hs.isCutOff fun hd => ?_, e, rfl⟩⟩
      rw [makeDirs_of_pathIsDir (hs.overlaid.pathIsDir hs.installed.isDir hd)] at hmade
      cases hmade
    | none =>
      have hdir := pathIsDir_of_makeDirs (congrArg Prod.snd hmade) (Release.serverDir_ne_empty root)
      rw [hmade] at hdir
      obtain ⟨d', hd'⟩ := directoryAt_of_pathIsDir hdir
      have hd := hs.overlaid.patched.directoryAt_of_directoryAt hd'
      obtain rfl := Option.some.inj (hs.installed.directory.symm.trans hd)
      have hstat := stat_join (isName_fileName hartifact c.tag) hs.fault hs.size hd' hs.get?_eq
      have hverdict : (c.probe h.tree (a.installPath root c.tag)).verdict = .valid := by
        rw [hc.verdict, installPath, hstat, hvalid]
      rw [ensure_of_valid (s := .start h.tree c.cancellation c.paced) hmade hverdict]
      exact ⟨hc.tree .., rfl, rfl, Or.inl rfl⟩

theorem reports (hs : Settled a root d b tag body h) (hartifact : '/' ∉ a.config.artifact.toList)
    (hvalid : judge (.ok (.file 0o755 body)) = .valid)
    (hcs : ∀ c ∈ cs,
      if c.tag.text = tag.text then c.probe.Judges a.workplace.key judge else c.IsQuiet) :
    ∀ p ∈ a.reports root h.tree cs, p.1.tag.text = tag.text →
      p.2.transfer.requests = [] ∧ p.2.transfer.events = [] ∧
        (p.2.result = .ok (.cached (a.installPath root tag)) ∨
          a.IsCutOff root b p.2.transfer.tree ∧ ∃ e, p.2.result =
            .error (.file "create directory" (Release.serverDir root) e)) := by
  induction cs generalizing h with
  | nil => simp [Acquirer.reports]
  | cons c cs ih =>
    have hc := hcs c (List.mem_cons_self ..)
    have hcs' := fun c' hc' => hcs c' (List.mem_cons_of_mem _ hc')
    intro p hp htag
    rw [Acquirer.reports] at hp
    by_cases hsame : c.tag.text = tag.text
    · rw [if_pos hsame] at hc
      rcases List.mem_cons.1 hp with rfl | hp
      · obtain ⟨htree, hreq, hevents, hresult⟩ := hs.same_call hartifact hc hvalid hsame
        dsimp only
        rw [htree]
        exact ⟨hreq, hevents, hresult⟩
      · have htree : (a.call root h.tree c).transfer.tree = h.tree :=
          (hs.same_call hartifact hc hvalid hsame).1
        rw [htree] at hp
        exact ih hs hcs' p hp htag
    · rw [if_neg hsame] at hc
      rcases List.mem_cons.1 hp with rfl | hp
      · exact absurd htag hsame
      · exact ih (hs.other_call hartifact hc hsame) hcs' p hp htag

end Settled

end Acquirer

end ServerLauncher
