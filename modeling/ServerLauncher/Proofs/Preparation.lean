import ServerLauncher.Proofs.Outcomes

/-!
A start that fails. The settings are looked at in a fixed order: storage root, tag, log file, and
the settings of the acquisition at last. Each of them is refused with a failure of its own kind. The
log file is opened before the last of them, so where the settings of the acquisition are refused, a
log file that was missing is there already. Nothing else is changed by a start that fails.
-/

namespace ServerLauncher

theorem Tree.openAppend_cases {t t' : Tree} {cwd k : Key} {path : String}
    (h : t.openAppend cwd path = .ok (t', k)) :
    (t' = t ∧ (t.get? k).isSome) ∨ (t' = t.add k (.file 0o644 []) ∧ t.get? k = none) := by
  unfold openAppend at h
  split at h
  · cases h
  · rename_i k' _
    cases hentry : t.get? k' with
    | none =>
      rw [hentry] at h
      dsimp only at h
      split at h
      · cases h
      · obtain ⟨rfl, rfl⟩ := Prod.mk.inj (Except.ok.inj h)
        exact Or.inr ⟨rfl, hentry⟩
    | some entry =>
      rw [hentry] at h
      cases entry with
      | dir => cases h
      | link target => cases h
      | file mode content =>
        dsimp only at h
        split at h
        · obtain ⟨rfl, rfl⟩ := Prod.mk.inj (Except.ok.inj h)
          exact Or.inl ⟨rfl, by rw [hentry]; rfl⟩
        · cases h

theorem Tree.add_ne_self {t : Tree} {k : Key} (e : Entry) (h : t.get? k = none) : t.add k e ≠ t := by
  intro heq
  have hentry := t.get?_add k k e
  rw [heq, h] at hentry
  simp at hentry

namespace Cli

namespace Context

variable {s : Scene} {t t' : Tree} {i : Invocation} {f : Failure}

theorem rootOf_eq_error (h : rootOf s t i = .error f) : ∃ e, f = .bare (.path e) := by
  unfold rootOf at h
  split at h
  · cases h
  · cases hroot : Storage.default (s.dataDir s.env) s.env t s.workplace.key with
    | ok root =>
      rw [hroot] at h
      cases h
    | error e =>
      rw [hroot] at h
      exact ⟨e, (Except.error.inj h).symm⟩

theorem tagOf_eq_error (h : tagOf i = .error f) :
    ∃ fault, Tag.fault? i.tag.toList = some fault ∧
      f = .bare (.acquire (.invalidTag i.tag fault.text)) := by
  unfold tagOf Release.tag at h
  cases htag : Tag.ofText i.tag with
  | ok tag =>
    rw [htag] at h
    cases h
  | error fault =>
    rw [htag] at h
    exact ⟨fault, Tag.ofText_eq_error_iff.1 htag, (Except.error.inj h).symm⟩

theorem openLog_eq_error {cwd : Key} (h : openLog t cwd i.logFile = .error f) :
    ∃ path e, i.logFile = some path ∧ t.openAppend cwd path = .error e ∧
      f = .within ("Failed to open log file " ++ path) (.bare (.file e)) := by
  unfold openLog at h
  split at h
  · cases h
  · rename_i path hpath
    split at h
    · cases h
    · rename_i e hopen
      exact ⟨path, e, hpath, hopen, (Except.error.inj h).symm⟩

theorem check_configOf {e : AcquireError} (h : Network.check (configOf i) = .error e) :
    ∃ fault, (configOf i).validate = .error fault ∧ e = .config fault := by
  have hclient : Network.clientFault? (configOf i) = none := by
    have hagent : (configOf i).userAgent = "prosemd-launch/0.1.0" := by
      unfold configOf
      split <;> rfl
    unfold Network.clientFault?
    rw [hagent]
    decide +kernel
  unfold Network.check at h
  rw [hclient] at h
  split at h
  · rename_i fault hfault
    exact ⟨fault, hfault, (Except.error.inj h).symm⟩
  · cases h

/-- Everything that a refused start can have found, in the order of the checks. -/
theorem refused_cases (h : prepare s t i = (t', .error f)) :
    (t' = t ∧ rootOf s t i = .error f ∧ ∃ e, f = .bare (.path e)) ∨
      (t' = t ∧ tagOf i = .error f ∧ ∃ fault, Tag.fault? i.tag.toList = some fault ∧
        f = .bare (.acquire (.invalidTag i.tag fault.text))) ∨
      (t' = t ∧ ∃ path e, i.logFile = some path ∧ t.openAppend s.workplace.key path = .error e ∧
        f = .within ("Failed to open log file " ++ path) (.bare (.file e))) ∨
      ∃ log fault, openLog t s.workplace.key i.logFile = .ok (t', log) ∧
        (configOf i).validate = .error fault ∧ f = .bare (.acquire (.config fault)) := by
  unfold prepare at h
  split at h
  · rename_i f' hroot
    obtain ⟨rfl, hf⟩ := Prod.mk.inj h
    obtain rfl := Except.error.inj hf
    exact Or.inl ⟨rfl, hroot, rootOf_eq_error hroot⟩
  · rename_i f' _ htag
    obtain ⟨rfl, hf⟩ := Prod.mk.inj h
    obtain rfl := Except.error.inj hf
    exact Or.inr (Or.inl ⟨rfl, htag, tagOf_eq_error htag⟩)
  · split at h
    · rename_i f' hlog
      obtain ⟨rfl, hf⟩ := Prod.mk.inj h
      obtain rfl := Except.error.inj hf
      exact Or.inr (Or.inr (Or.inl ⟨rfl, openLog_eq_error hlog⟩))
    · rename_i opened log hlog
      dsimp only at h
      split at h
      · rename_i e hcheck
        obtain ⟨rfl, hf⟩ := Prod.mk.inj h
        obtain ⟨fault, hfault, rfl⟩ := check_configOf hcheck
        exact Or.inr (Or.inr (Or.inr ⟨log, fault, hlog, hfault, (Except.error.inj hf).symm⟩))
      · obtain ⟨-, hc⟩ := Prod.mk.inj h
        cases hc

/-- The log file that is named is missing, and opening it makes it at a place. -/
structure MakesLog (t : Tree) (cwd : Key) (i : Invocation) (k : Key) : Prop where
  opened : ∃ path, i.logFile = some path ∧
    t.openAppend cwd path = .ok (t.add k (.file 0o644 []), k)
  missing : t.get? k = none

theorem MakesLog.openLog_eq {cwd k : Key} (h : MakesLog t cwd i k) :
    openLog t cwd i.logFile = .ok (t.add k (.file 0o644 []), some k) := by
  obtain ⟨path, hpath, hopen⟩ := h.opened
  unfold openLog
  rw [hpath]
  dsimp only
  rw [hopen]

theorem openLog_cases {cwd : Key} {log : Option Key}
    (h : openLog t cwd i.logFile = .ok (t', log)) :
    t' = t ∨ ∃ k, MakesLog t cwd i k ∧ t' = t.add k (.file 0o644 []) := by
  unfold openLog at h
  split at h
  · obtain ⟨rfl, -⟩ := Prod.mk.inj (Except.ok.inj h)
    exact Or.inl rfl
  · rename_i path hpath
    split at h
    · rename_i opened k hopen
      obtain ⟨rfl, -⟩ := Prod.mk.inj (Except.ok.inj h)
      rcases Tree.openAppend_cases hopen with ⟨hsame, -⟩ | ⟨hadded, hmissing⟩
      · exact Or.inl hsame
      · rw [hadded] at hopen
        exact Or.inr ⟨k, ⟨⟨path, hpath, hopen⟩, hmissing⟩, hadded⟩
    · cases h

/-- A refused start leaves the tree as it is, or has made the log file before the settings of the
acquisition were refused. -/
theorem refused_tree_cases (h : prepare s t i = (t', .error f)) :
    t' = t ∨ ∃ k, MakesLog t s.workplace.key i k ∧ t' = t.add k (.file 0o644 []) := by
  rcases refused_cases h with ⟨hsame, -⟩ | ⟨hsame, -⟩ | ⟨hsame, -⟩ | ⟨log, fault, hlog, -⟩
  · exact Or.inl hsame
  · exact Or.inl hsame
  · exact Or.inl hsame
  · exact openLog_cases hlog

theorem refused_tree_ne_iff (h : prepare s t i = (t', .error f)) :
    t' ≠ t ↔ (∃ fault, f = .bare (.acquire (.config fault))) ∧ ∃ k, MakesLog t s.workplace.key i k := by
  constructor
  · intro hne
    rcases refused_tree_cases h with hsame | ⟨k, hmakes, -⟩
    · exact absurd hsame hne
    · refine ⟨?_, k, hmakes⟩
      rcases refused_cases h with ⟨hsame, -⟩ | ⟨hsame, -⟩ | ⟨hsame, -⟩ | ⟨log, fault, -, -, hf⟩
      · exact absurd hsame hne
      · exact absurd hsame hne
      · exact absurd hsame hne
      · exact ⟨fault, hf⟩
  · rintro ⟨⟨fault, hfault⟩, k, hmakes⟩
    -- only the last of the checks refuses settings, and the log file has been opened by then
    rcases refused_cases h with ⟨-, -, e, hf⟩ | ⟨-, -, e, -, hf⟩ | ⟨-, path, e, -, -, hf⟩ |
      ⟨log, fault', hlog, -⟩
    · rw [hfault] at hf
      cases hf
    · rw [hfault] at hf
      cases hf
    · rw [hfault] at hf
      cases hf
    · rw [hmakes.openLog_eq] at hlog
      obtain ⟨hadded, -⟩ := Prod.mk.inj (Except.ok.inj hlog)
      rw [← hadded]
      exact Tree.add_ne_self _ hmakes.missing

/-- What a refused start leaves and answers. -/
def refusal? : Tree × Except Failure Context → Option (Tree × Failure)
  | (t, .error f) => some (t, f)
  | (_, .ok _) => none

theorem refusal?_eq_some_iff {r : Tree × Except Failure Context} :
    refusal? r = some (t', f) ↔ r = (t', .error f) := by
  obtain ⟨t₁, answer⟩ := r
  cases answer with
  | error f₁ => simp [refusal?]
  | ok c => simp [refusal?]

end Context

namespace Scene

/-- A start that fails changes nothing but the log file: it is made, without content, if it was
missing and the settings of the acquisition are refused. -/
theorem failed_start_leaves_tree (s : Scene) (o : Outside) (t : Tree) {words : List String}
    {i : Invocation} {t' : Tree} {f : Failure} (hparse : parse (s.settled t).env words = .ok i)
    (h : Context.prepare (s.settled t) t i = (t', .error f)) :
    (s.launch o t words).1 = t' ∧
      (t' = t ∨
        ∃ k, Context.MakesLog t s.workplace.key i k ∧ t' = t.add k (.file 0o644 [])) ∧
      (t' ≠ t ↔ (∃ fault, f = .bare (.acquire (.config fault))) ∧
        ∃ k, Context.MakesLog t s.workplace.key i k) := by
  have hcases := Context.refused_tree_cases h
  have hchanged := Context.refused_tree_ne_iff h
  refine ⟨?_, hcases, hchanged⟩
  rw [launch_of_parsed o hparse, dispatch_of_refused h]

/-- A scene in which there is a directory for the data of the user. -/
def rootedScene : Scene := { quietScene with dataDir := fun _ => some (.ofText "/d") }

def faultyWords : List String :=
  ["paths", "--tag", "a/b", "--release-url", "nope", "--log-file", "l"]

def faultyInvocation : Invocation := ⟨none, "a/b", some "nope", some "l", false, .paths false⟩

/-- The tag is refused before the log file is opened. -/
theorem refused_tag_leaves_tree :
    parse (rootedScene.settled ⟨[], []⟩).env faultyWords = .ok faultyInvocation ∧
      Context.prepare (rootedScene.settled ⟨[], []⟩) ⟨[], []⟩ faultyInvocation =
        (⟨[], []⟩, .error (.bare (.acquire (.invalidTag "a/b" TagFault.separator.text)))) ∧
      (rootedScene.launch barrenOutside ⟨[], []⟩ faultyWords).1 = ⟨[], []⟩ := by
  have hparse : parse (rootedScene.settled ⟨[], []⟩).env faultyWords = .ok faultyInvocation :=
    Tree.toOption_eq_some_iff.1 (by decide +kernel)
  have hprepare := Context.refusal?_eq_some_iff.1 (by decide +kernel :
    Context.refusal? (Context.prepare (rootedScene.settled ⟨[], []⟩) ⟨[], []⟩ faultyInvocation) =
      some (⟨[], []⟩, .bare (.acquire (.invalidTag "a/b" TagFault.separator.text))))
  exact ⟨hparse, hprepare,
    (failed_start_leaves_tree rootedScene barrenOutside ⟨[], []⟩ hparse hprepare).1⟩

def lateWords : List String := ["paths", "--release-url", "nope", "--log-file", "l"]

/-- An address that cannot be read is refused when the log file has been made. -/
theorem refused_address_leaves_log :
    ∃ i t' f, parse (rootedScene.settled ⟨[], []⟩).env lateWords = .ok i ∧
      Context.prepare (rootedScene.settled ⟨[], []⟩) ⟨[], []⟩ i = (t', .error f) ∧
      (rootedScene.launch barrenOutside ⟨[], []⟩ lateWords).1 = t' ∧
      (rootedScene.launch barrenOutside ⟨[], []⟩ lateWords).2.code = some 78 ∧
      t' = ⟨[(["l"], .file 0o644 [])], []⟩ ∧ t' ≠ ⟨[], []⟩ := by
  refine ⟨⟨none, defaultTag, some "nope", some "l", false, .paths false⟩, _,
    .bare (.acquire (.config (.invalidUrl "nope" .noBase))), ?_, ?_, ?_, ?_, rfl, by decide⟩
  · exact Tree.toOption_eq_some_iff.1 (by decide +kernel)
  · exact Context.refusal?_eq_some_iff.1 (by decide +kernel)
  · decide +kernel
  · decide +kernel

end Scene

end Cli

end ServerLauncher
