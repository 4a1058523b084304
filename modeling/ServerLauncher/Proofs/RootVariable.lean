import ServerLauncher.Proofs.LooseReading
import ServerLauncher.Proofs.Outcomes
import ServerLauncher.Proofs.Wording

/-!
The variable of the storage root is read in two ways. The command line takes its value as it stands
and refuses only an empty one; the reading of the environment alone takes the blanks off, wants a
text, and refuses what is there but is no directory. The two agree exactly on a value that all of
this leaves alone.
-/

namespace ServerLauncher.Cli

theorem Names.of_rest {s : Setting} {before rest : List String} {name : String}
    (hbefore : "--" ∉ before) (hname : name ≠ "--") (h : Names s rest) :
    Names s (before ++ name :: rest) := by
  induction before with
  | nil => exact (names_cons hname).2 (Or.inr h)
  | cons arg before ih =>
    have harg : arg ≠ "--" := fun he => hbefore (he ▸ List.mem_cons_self ..)
    exact (names_cons harg).2 (Or.inr (ih fun hmem => hbefore (List.mem_cons_of_mem _ hmem)))

namespace Level

variable {p : Place} {l m l' : Level} {s : Setting} {args : List String}
  {next : Option (String × List String)}

/-- The setting has no value, and none waits to be looked at. -/
structure Lacks (l : Level) (s : Setting) : Prop where
  value : l.value? s = none
  pending : ∀ v, l.pending ≠ some (s, v)

theorem lacks_start (s : Setting) : Lacks { } s :=
  ⟨rfl, fun _ => by simp⟩

theorem Lacks.record (h : l.Lacks s) {s' : Setting} {v : String} (hne : s' ≠ s)
    (hm : l.record s' v = .ok m) : m.Lacks s := by
  obtain ⟨-, -, rfl⟩ := record_eq_ok_iff.1 hm
  have hbeq : (s == s') = false := by simpa using hne.symm
  refine ⟨?_, h.pending⟩
  change (l.values ++ [(s', v)]).lookup s = none
  rw [List.lookup_append]
  have hvalue : l.values.lookup s = none := h.value
  simp [hvalue, List.lookup_cons, hbeq]

theorem Lacks.settle (h : l.Lacks s) (hm : l.settle = .ok m) : m.Lacks s := by
  unfold Level.settle at hm
  split at hm
  · rw [← Except.ok.inj hm]
    exact h
  · cases hm
  · rename_i s' v hpending
    have hne : s' ≠ s := by
      rintro rfl
      exact h.pending _ hpending
    have hlooked : Lacks { l with pending := none } s := ⟨h.value, fun _ => by simp⟩
    exact hlooked.record hne hm

theorem Lacks.raise (h : l.Lacks s) {f : Flag} (hm : l.raise f = .ok m) : m.Lacks s := by
  obtain ⟨l₁, hsettle, hm⟩ := bind_eq_ok_iff.1 hm
  have hl₁ := h.settle hsettle
  cases f with
  | quiet =>
    dsimp only at hm
    split at hm
    · cases hm
    · obtain rfl := Except.ok.inj hm
      exact ⟨hl₁.value, hl₁.pending⟩
  | json =>
    dsimp only at hm
    split at hm
    · cases hm
    · obtain rfl := Except.ok.inj hm
      exact ⟨hl₁.value, hl₁.pending⟩
  | help => cases hm
  | version => cases hm

theorem Lacks.takeShort (h : l.Lacks s) {letters : List Char}
    (hm : takeShort p l letters = .ok m) : m.Lacks s := by
  induction letters generalizing l with
  | nil =>
    obtain rfl := Except.ok.inj hm
    exact h
  | cons c letters ih =>
    unfold Level.takeShort at hm
    split at hm
    · obtain ⟨l₁, hraise, hm⟩ := bind_eq_ok_iff.1 hm
      exact ih (h.raise hraise) hm
    · cases hm

theorem Lacks.takeLong (h : l.Lacks s) {name : String} {value : Option String}
    (hname : name ≠ s.name) (hm : l.takeLong p name value = .ok m) : m.Lacks s := by
  have hother : ∀ s', Setting.all.find? (·.name == name) = some s' → s' ≠ s := by
    rintro s' hfind rfl
    have hsame := List.find?_some hfind
    rw [beq_iff_eq] at hsame
    exact hname hsame.symm
  unfold Level.takeLong at hm
  split at hm
  · rename_i s' v hfind
    obtain ⟨l₁, hsettle, hm⟩ := bind_eq_ok_iff.1 hm
    exact (h.settle hsettle).record (hother s' hfind) hm
  · rename_i s' hfind
    obtain ⟨l₁, hsettle, hm⟩ := bind_eq_ok_iff.1 hm
    obtain rfl := Except.ok.inj hm
    refine ⟨(h.settle hsettle).value, ?_⟩
    intro v hpending
    exact hother s' hfind (Prod.mk.inj (Option.some.inj hpending)).1
  · cases hm
  · exact h.raise hm
  · cases hm

theorem Lacks.step (h : l.Lacks s) {arg : String} (harg : ¬IsFor s arg)
    (hm : l.step p arg = .ok m) : m.Lacks s := by
  unfold Level.step at hm
  cases hshape : Shape.ofArg arg with
  | separator =>
    rw [hshape] at hm
    cases hm
  | long name value =>
    rw [hshape] at hm
    have hname : name ≠ s.name := by
      rintro rfl
      exact harg (Shape.isFor_of_ofArg hshape)
    exact h.takeLong hname hm
  | short letters =>
    rw [hshape] at hm
    exact h.takeShort hm
  | word =>
    rw [hshape] at hm
    dsimp only at hm
    split at hm
    · obtain rfl := Except.ok.inj hm
      refine ⟨h.value, ?_⟩
      intro v hpending
      obtain ⟨⟨s', v'⟩, hold, hgiven⟩ := Option.map_eq_some_iff.1 hpending
      obtain ⟨rfl, -⟩ := Prod.mk.inj hgiven
      exact h.pending v' hold
    · cases hm

theorem Lacks.takeRest (h : l.Lacks s) {rest : List String} (hm : l.takeRest p rest = .ok m) :
    m.Lacks s := by
  rcases takeRest_eq_ok hm with ⟨-, rfl⟩ | ⟨-, -, l₁, hsettle, rfl⟩
  · exact h
  · exact ⟨(h.settle hsettle).value, (h.settle hsettle).pending⟩

theorem Lacks.scan (h : l.Lacks s) (hargs : ¬Names s args)
    (hm : scan p l args = .ok (m, next)) : m.Lacks s := by
  induction args generalizing l with
  | nil =>
    cases hm
    exact h
  | cons arg args ih =>
    rcases scan_cases hm with ⟨rfl, -⟩ | ⟨hsep, ⟨-, -, rfl, -⟩ | ⟨-, m₁, hstep, hscan⟩⟩
    · rw [scan_separator] at hm
      obtain ⟨m₁, hrest, hm⟩ := bind_eq_ok_iff.1 hm
      obtain ⟨rfl, -⟩ := Prod.mk.inj (Except.ok.inj hm)
      exact h.takeRest hrest
    · exact h
    · rw [names_cons hsep, not_or] at hargs
      exact ih (h.step hargs.1 hstep) hargs.2 hscan

theorem Lacks.yields (h : l.Lacks s) (hargs : ¬Names s args) (hl : Yields p l args l' next) :
    l'.value? s = none := by
  obtain ⟨m, hscan, hsettle⟩ := hl
  exact ((h.scan hargs hscan).settle hsettle).value

end Level

variable {env : Environment} {args : List String} {i : Invocation}

/-- A storage root that is not named comes from its variable, which is not empty then. -/
theorem root_of_parse (hargs : ¬Names .storageRoot args) (hparse : parse env args = .ok i) :
    i.storageRoot = env.get? Storage.rootVariable ∧ env.get? Storage.rootVariable ≠ some [] := by
  obtain ⟨top, name, rest, p, level, next, htop, -, hlevel, hinner, -, rfl⟩ :=
    parse_eq_ok_iff_invoked.1 hparse
  have houter : top.value? .storageRoot = none := (Level.lacks_start _).yields hargs htop
  have hrest : ¬Names .storageRoot rest := by
    intro hnames
    obtain ⟨m, hscan, -⟩ := htop
    obtain ⟨before, rfl, hbefore, hname⟩ := Level.exists_before_command hscan
    exact hargs (hnames.of_rest hbefore hname)
  have hlacks : level.value? .storageRoot = none := (Level.lacks_start _).yields hrest hlevel
  refine ⟨?_, hinner.storageRoot hlacks⟩
  simp [invoked, houter, hlacks]

end ServerLauncher.Cli

namespace ServerLauncher.Storage

variable {dataDir? : Option Bytes} {env : Environment} {t : Tree} {cwd : Key}

/-- A value that stays what it is when the blanks around it are taken off, and that leads to a
directory if it leads to anything. -/
structure Plain (t : Tree) (cwd : Key) (path : String) : Prop where
  trimmed : Text.trim path = path
  filled : path ≠ ""
  directory : t.pathExists cwd path = true → t.pathIsDir cwd path = true

theorem ofText_eq_error_iff {raw : String} :
    (∃ e, ofText t cwd raw = .error e) ↔ Text.trim raw = "" ∨
      t.pathExists cwd (Text.trim raw) = true ∧ t.pathIsDir cwd (Text.trim raw) = false := by
  unfold ofText
  by_cases hempty : Text.trim raw = ""
  · simp [hempty]
  · by_cases hfile :
        t.pathExists cwd (Text.trim raw) = true ∧ t.pathIsDir cwd (Text.trim raw) = false
    · simp [hempty, hfile]
    · simp [hempty, hfile]

theorem ofText_eq_self_iff {raw : String} :
    ofText t cwd raw = .ok (.ofText raw) ↔ Plain t cwd raw := by
  unfold ofText
  constructor
  · intro h
    dsimp only at h
    split at h
    · cases h
    · rename_i hfilled
      split at h
      · cases h
      · rename_i hdirectory
        have htrim : Text.trim raw = raw := Bytes.ofText_injective (Except.ok.inj h)
        rw [htrim] at hfilled hdirectory
        refine ⟨htrim, hfilled, ?_⟩
        intro hexists
        by_contra hnot
        exact hdirectory ⟨hexists, by simpa using hnot⟩
  · rintro ⟨htrim, hfilled, hdirectory⟩
    have hnot : ¬(t.pathExists cwd raw = true ∧ t.pathIsDir cwd raw = false) := by
      rintro ⟨hexists, hdir⟩
      rw [hdirectory hexists] at hdir
      cases hdir
    simp only [htrim, if_neg hfilled, if_neg hnot]

theorem default_of_text {raw : String} (h : env.text? rootVariable = some raw) :
    default dataDir? env t cwd = ofText t cwd raw := by
  simp only [default, h]

theorem default_of_no_text (h : env.text? rootVariable = none) :
    default dataDir? env t cwd =
      (match dataDir? with
      | some dir => .ok (join dir "prosemd")
      | none => .error .noDataDir) := by
  cases dataDir? <;> simp only [default, h]

theorem text?_of_no_text {bytes : Bytes} (h : env.get? rootVariable = some bytes)
    (hnone : Text.strict? bytes = none) : env.text? rootVariable = none := by
  rw [Environment.text?, h, Option.bind_some, hnone]

end ServerLauncher.Storage

namespace ServerLauncher.Cli

variable {s : Scene} {args : List String} {i : Invocation} {t t' : Tree} {c : Context}

/-- The storage root that the environment alone gives. -/
def Scene.ownRoot (s : Scene) (t : Tree) : Except PathError Bytes :=
  Storage.default (s.dataDir s.env) s.env t s.workplace.key

/-- The storage root of a command line is the one that the environment alone gives, or is refused
as that is. -/
def FollowsEnvironment (s : Scene) (t : Tree) (i : Invocation) : Prop :=
  Context.rootOf s t i = (s.ownRoot t).mapError fun e => .bare (.path e)

namespace Context

theorem rootOf_of_some {root : Bytes} (h : i.storageRoot = some root) :
    rootOf s t i = .ok root := by
  simp only [rootOf, h]

theorem rootOf_of_none (h : i.storageRoot = none) : FollowsEnvironment s t i := by
  simp only [FollowsEnvironment, Scene.ownRoot, rootOf, h]

theorem prepare_refuses_root_iff {e : PathError} :
    (prepare s t i).2 = .error (.bare (.path e)) ↔
      rootOf s t i = .error (.bare (.path e)) := by
  rw [prepare_eq_error_iff]
  constructor
  · rintro (hroot | ⟨root, -, htag | ⟨tag, -, hlog | ⟨opened, fault, -, -, hf⟩⟩⟩)
    · exact hroot
    · unfold tagOf at htag
      cases hcheck : Release.tag i.tag with
      | error fault =>
        rw [hcheck] at htag
        cases htag
      | ok tag =>
        rw [hcheck] at htag
        cases htag
    · unfold openLog at hlog
      split at hlog
      · cases hlog
      · split at hlog
        · cases hlog
        · cases hlog
    · cases hf
  · exact Or.inl

end Context

/-- The variable of the storage root where no root is named. Set to nothing it is refused by both
readers, and not set it is left to the environment by both. Otherwise the command line takes its
value as it stands. For a text the readers agree exactly if it needs no trimming and leads to no
file; what is no text is a root only for the command line, so there they agree exactly if it is the
directory that the system knows. -/
theorem variable_read_twice (hargs : ¬Names .storageRoot args) (s : Scene) (t : Tree) :
    (s.env.get? Storage.rootVariable = some [] →
        (∀ i, parse s.env args ≠ .ok i) ∧ s.ownRoot t = .error .emptyPath) ∧
      ∀ i, parse s.env args = .ok i →
        (s.env.get? Storage.rootVariable = none →
          FollowsEnvironment s t i ∧
          s.ownRoot t = (match s.dataDir s.env with
            | some dir => .ok (Storage.join dir "prosemd")
            | none => .error .noDataDir)) ∧
        (∀ raw, s.env.text? Storage.rootVariable = some raw →
          Context.rootOf s t i = .ok (.ofText raw) ∧
          (FollowsEnvironment s t i ↔ Storage.Plain t s.workplace.key raw) ∧
          ((∃ e, s.ownRoot t = .error e) ↔ Text.trim raw = "" ∨
            t.pathExists s.workplace.key (Text.trim raw) = true ∧
              t.pathIsDir s.workplace.key (Text.trim raw) = false)) ∧
        (∀ bytes, s.env.get? Storage.rootVariable = some bytes → Text.strict? bytes = none →
          Context.rootOf s t i = .ok bytes ∧
          (FollowsEnvironment s t i ↔
            ∃ dir, s.dataDir s.env = some dir ∧ bytes = Storage.join dir "prosemd") ∧
          s.ownRoot t = (match s.dataDir s.env with
            | some dir => .ok (Storage.join dir "prosemd")
            | none => .error .noDataDir)) ∧
        (∀ t' c, Context.prepare s t i = (t', .ok c) → Context.rootOf s t i = .ok c.root) ∧
        ∀ e, (Context.prepare s t i).2 = .error (.bare (.path e)) ↔
          Context.rootOf s t i = .error (.bare (.path e)) := by
  constructor
  · intro hempty
    have htext : s.env.text? Storage.rootVariable = some "" := by
      unfold Environment.text?
      rw [hempty]
      decide
    constructor
    · intro i hparse
      obtain ⟨-, hfilled⟩ := root_of_parse hargs hparse
      exact hfilled hempty
    · rw [Scene.ownRoot, Storage.default_of_text htext]
      rfl
  · intro i hparse
    -- a variable that is set is taken here, so the reading of the environment is not asked
    obtain ⟨hroot, -⟩ := root_of_parse hargs hparse
    have htaken : ∀ bytes, s.env.get? Storage.rootVariable = some bytes →
        Context.rootOf s t i = .ok bytes := by
      intro bytes hbytes
      apply Context.rootOf_of_some
      rw [hroot, hbytes]
    refine ⟨fun hnone => ⟨?_, ?_⟩, ?_, ?_, ?_, ?_⟩
    · apply Context.rootOf_of_none
      rw [hroot, hnone]
    · apply Storage.default_of_no_text
      rw [Environment.text?, hnone]
      rfl
    · intro raw hraw
      obtain ⟨bytes, hbytes, hstrict⟩ := Option.bind_eq_some_iff.1 hraw
      have hrootOf : Context.rootOf s t i = .ok (.ofText raw) := by
        rw [htaken bytes hbytes, Text.eq_ofText_of_strict? hstrict]
      refine ⟨hrootOf, ?_, ?_⟩
      · unfold FollowsEnvironment Scene.ownRoot
        rw [hrootOf, Storage.default_of_text hraw, eq_comm, mapError_eq_ok_iff]
        exact Storage.ofText_eq_self_iff
      · rw [Scene.ownRoot, Storage.default_of_text hraw]
        exact Storage.ofText_eq_error_iff
    · intro bytes hbytes hnone
      have hown : s.ownRoot t = _ :=
        Storage.default_of_no_text (Storage.text?_of_no_text hbytes hnone)
      refine ⟨htaken bytes hbytes, ?_, hown⟩
      unfold FollowsEnvironment
      rw [htaken bytes hbytes, hown]
      cases s.dataDir s.env with
      | none => simp [Except.mapError]
      | some dir => simp [Except.mapError]
    · intro t' c hprepare
      exact (Context.isReady_of_prepared hprepare).root
    · intro e
      exact Context.prepare_refuses_root_iff

theorem not_isFor_of_word {s : Setting} {arg : String} (h : arg.toList.head? ≠ some '-') :
    ¬IsFor s arg := by
  rintro (rfl | ⟨value, rfl⟩)
  · simp at h
  · simp at h

/-- A scene with a value of the variable, and without a directory for the data of the user. -/
def withRoot (path : Bytes) : Scene :=
  ⟨⟨[], ""⟩, [("PROSEMD_DATA_DIR", path)], "linux", fun _ => none⟩

def pathsThere : Invocation := ⟨some [0x78], "v0.1.0", none, none, false, .paths false⟩

/-- A plain value is read in the same way by both. -/
theorem short_root_read_twice :
    ¬Names .storageRoot ["paths"] ∧ parse (withRoot [0x78]).env ["paths"] = .ok pathsThere ∧
      Storage.Plain ⟨[], []⟩ [] "x" ∧ FollowsEnvironment (withRoot [0x78]) ⟨[], []⟩ pathsThere := by
  have hargs : ¬Names .storageRoot ["paths"] := by
    rintro ⟨arg, hmem, hfor⟩
    obtain rfl : arg = "paths" := by simpa using hmem
    exact not_isFor_of_word (by decide) hfor
  have hparse : parse (withRoot [0x78]).env ["paths"] = .ok pathsThere :=
    Tree.toOption_eq_some_iff.1 (by decide +kernel)
  have hplain : Storage.Plain ⟨[], []⟩ [] "x" := ⟨by decide +kernel, by decide, by decide +kernel⟩
  obtain ⟨-, htext, -⟩ := (variable_read_twice hargs (withRoot [0x78]) ⟨[], []⟩).2 _ hparse
  obtain ⟨-, hfollows, -⟩ := htext "x" (by decide +kernel)
  exact ⟨hargs, hparse, hplain, hfollows.2 hplain⟩

def pathsWords : List String := ["paths", "--release-url", "http://[::1]/"]

/-- A padded value names one root on the command line and another in the environment alone; blanks,
or the path of a file, are taken here and refused there, and so is what is no text where the system
knows no directory for the data of the user. -/
theorem padded_root_read_differently :
    (∃ i, parse (withRoot [0x20, 0x78]).env pathsWords = .ok i ∧
        ((Context.prepare (withRoot [0x20, 0x78]) ⟨[], []⟩ i).2.map Context.root) =
          .ok [0x20, 0x78] ∧
        (withRoot [0x20, 0x78]).ownRoot ⟨[], []⟩ = .ok [0x78]) ∧
      (∃ i, parse (withRoot [0x20]).env pathsWords = .ok i ∧
        ((Context.prepare (withRoot [0x20]) ⟨[], []⟩ i).2.map Context.root) = .ok [0x20] ∧
        (withRoot [0x20]).ownRoot ⟨[], []⟩ = .error .emptyPath) ∧
      (∃ i, parse (withRoot [0x78]).env pathsWords = .ok i ∧
        ((Context.prepare (withRoot [0x78]) ⟨[(["x"], .file 0o644 [])], []⟩ i).2.map
          Context.root) = .ok [0x78] ∧
        (withRoot [0x78]).ownRoot ⟨[(["x"], .file 0o644 [])], []⟩ =
          .error (.notDirectory "x")) ∧
      ∃ i, parse (withRoot [0xFF]).env pathsWords = .ok i ∧
        ((Context.prepare (withRoot [0xFF]) ⟨[], []⟩ i).2.map Context.root) = .ok [0xFF] ∧
        (withRoot [0xFF]).ownRoot ⟨[], []⟩ = .error .noDataDir := by
  have hread : ∀ root ∈ ([[0x20, 0x78], [0x20], [0x78], [0xFF]] : List Bytes),
      (parse (withRoot root).env pathsWords).toOption =
        some ⟨some root, "v0.1.0", some "http://[::1]/", none, false, .paths false⟩ := by
    decide +kernel
  have htaken : ∀ {root : Bytes}, root ∈ ([[0x20, 0x78], [0x20], [0x78], [0xFF]] : List Bytes) →
      parse (withRoot root).env pathsWords =
        .ok ⟨some root, "v0.1.0", some "http://[::1]/", none, false, .paths false⟩ :=
    fun hroot => Tree.toOption_eq_some_iff.1 (hread _ hroot)
  refine ⟨⟨_, htaken (by simp), ?_, ?_⟩, ⟨_, htaken (by simp), ?_, ?_⟩,
    ⟨_, htaken (by simp), ?_, ?_⟩, ⟨_, htaken (by simp), ?_, ?_⟩⟩
  · exact Tree.toOption_eq_some_iff.1 (by decide +kernel)
  · exact Tree.toOption_eq_some_iff.1 (by decide +kernel)
  · exact Tree.toOption_eq_some_iff.1 (by decide +kernel)
  · have htrim : Text.trim " " = "" := by decide +kernel
    have htext : (withRoot [0x20]).env.text? Storage.rootVariable = some " " := by decide +kernel
    rw [Scene.ownRoot, Storage.default_of_text htext, Storage.ofText, htrim]
    exact if_pos rfl
  · exact Tree.toOption_eq_some_iff.1 (by decide +kernel)
  · have htrim : Text.trim "x" = "x" := by decide +kernel
    have htext : (withRoot [0x78]).env.text? Storage.rootVariable = some "x" := by decide +kernel
    have hfile : Tree.pathExists ⟨[(["x"], .file 0o644 [])], []⟩ [] "x" = true ∧
        Tree.pathIsDir ⟨[(["x"], .file 0o644 [])], []⟩ [] "x" = false := by decide +kernel
    rw [Scene.ownRoot, Storage.default_of_text htext, Storage.ofText, htrim]
    exact (if_neg (by decide)).trans (if_pos hfile)
  · exact Tree.toOption_eq_some_iff.1 (by decide +kernel)
  · exact Storage.default_of_no_text (Storage.text?_of_no_text rfl (by decide +kernel))

end ServerLauncher.Cli
