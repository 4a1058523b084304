import ServerLauncher.Proofs.Walking
import ServerLauncher.Proofs.Wording

/-!
Settings may stand anywhere. Before or after the command, in any order and in either way of writing,
they make the same invocation, or the command line is refused wherever they stand. A setting that is
given wins over its variable, and that over what is built in, as far as the variables can be read.
-/

namespace ServerLauncher.Cli

/-- Each setting is given at most once. -/
structure Once (said : List Sense) : Prop where
  settings : (givenKeys said).Nodup
  quiet : said.count .quiet ≤ 1

/-- What may stand behind the phrases: nothing, or a separator and the server's arguments. -/
def closing : Option (List String) → List String
  | none => []
  | some args => "--" :: args

/-- A command line with phrases before and after the command. -/
def line (before : List Phrase) (name : String) (after : List Phrase)
    (tail : Option (List String)) : List String :=
  before.flatMap Phrase.words ++ name :: (after.flatMap Phrase.words ++ closing tail)

/-- The variables that settings come from can be read. -/
structure Readable (env : Environment) : Prop where
  storageRoot : env.get? Storage.rootVariable ≠ some []
  tag : HoldsText env "PROSEMD_TAG"
  releaseUrl : HoldsText env "PROSEMD_RELEASE_URL"

/-- What is said, the variables and the end of the line can all be accepted. -/
structure Acceptable (env : Environment) (p : Place) (said : List Sense)
    (tail : Option (List String)) : Prop where
  readable : Readable env
  paths : ∀ s v, .value s v ∈ said → s.isPath = true → v ≠ ""
  json : said.count .json ≤ 1
  place : .json ∈ said → p = .paths
  tail : ∀ args, tail = some args → args ≠ [] → p = .run

/-- The invocation that is wanted: what is said goes first, then the environment, then what is built
in. -/
def wanted (env : Environment) (p : Place) (said : List Sense) (tail : Option (List String)) :
    Invocation where
  storageRoot := ((given? said .storageRoot).map .ofText).or (env.get? Storage.rootVariable)
  tag := ((given? said .tag).or (env.text? "PROSEMD_TAG")).getD defaultTag
  releaseUrl := (given? said .releaseUrl).or (env.text? "PROSEMD_RELEASE_URL")
  logFile := given? said .logFile
  quiet := decide (.quiet ∈ said)
  command :=
    match p with
    | .paths => .paths (decide (.json ∈ said))
    | .run => .run (tail.getD [])
    | _ => .ensure

namespace Level

variable {p : Place} {l l' : Level} {before after : List Phrase} {name : String}
  {tail : Option (List String)} {next : Option (String × List String)}

theorem yields_closing (hl : l.pending = none) (hargs : l.args = []) :
    Yields p l (closing tail) l' next ↔
      next = none ∧ (∀ args, tail = some args → args ≠ [] → p = .run) ∧
        l' = { l with args := tail.getD [] } := by
  have hsettle := settle_of_pending hl
  cases tail with
  | none =>
    constructor
    · rintro ⟨m, hscan, hm⟩
      obtain ⟨rfl, rfl⟩ := Prod.mk.inj (Except.ok.inj hscan)
      refine ⟨rfl, by simp, ?_⟩
      rw [hsettle] at hm
      rw [← Except.ok.inj hm]
      exact congrArg (fun args => { l with args }) hargs
    · rintro ⟨rfl, -, rfl⟩
      have hsame : { l with args := [] } = l := congrArg (fun args => { l with args }) hargs.symm
      exact ⟨l, rfl, hsettle.trans (congrArg _ hsame.symm)⟩
  | some args =>
    change Yields p l ("--" :: args) l' next ↔ _
    rw [yields_separator]
    have hsame : (if args = [] then l else { l with args }) = { l with args } := by
      split
      · rename_i hnone
        rw [hnone, ← hargs]
      · rfl
    constructor
    · rintro ⟨hnext, hrun, l₁, hl₁, rfl⟩
      obtain rfl := Except.ok.inj (hsettle.symm.trans hl₁)
      refine ⟨hnext, ?_, hsame⟩
      rintro args' ⟨⟩ hne
      exact hrun.resolve_left hne
    · rintro ⟨hnext, hrun, rfl⟩
      refine ⟨hnext, ?_, l, hsettle, hsame.symm⟩
      by_cases hne : args = []
      · exact Or.inl hne
      · exact Or.inr (hrun args rfl hne)

theorem yields_before (hplain : ∀ f ∈ before, f.IsPlain) (hname : Place.top.isCommand name = true)
    {rest : List String} {word : String × List String} :
    Yields .top { } (before.flatMap Phrase.words ++ name :: rest) l' (some word) ↔
      Sound .top (before.map Phrase.sense) ∧ l' = saying (before.map Phrase.sense) ∧
        word = (name, rest) := by
  rw [yields_phrases hplain]
  have hscan : scan .top (saying (before.map Phrase.sense)) (name :: rest) =
      .ok (saying (before.map Phrase.sense), some (name, rest)) := scan_of_command rfl hname
  apply and_congr_right
  intro _
  unfold Yields
  rw [hscan]
  constructor
  · rintro ⟨m, hm, hsettle⟩
    cases hm
    exact ⟨(Except.ok.inj hsettle).symm, rfl⟩
  · rintro ⟨rfl, rfl⟩
    exact ⟨_, rfl, rfl⟩

theorem yields_after (hplain : ∀ f ∈ after, f.IsPlain) :
    Yields p { } (after.flatMap Phrase.words ++ closing tail) l' next ↔
      Sound p (after.map Phrase.sense) ∧ next = none ∧
        (∀ args, tail = some args → args ≠ [] → p = .run) ∧
        l' = { saying (after.map Phrase.sense) with args := tail.getD [] } := by
  rw [yields_phrases hplain, yields_closing rfl rfl]

end Level

variable {env : Environment} {p : Place} {name : String} {before after : List Phrase}
  {tail : Option (List String)} {i : Invocation} {said said' : List Sense}

theorem isCommand_of_ofCommand? (h : Place.ofCommand? name = some p) :
    Place.top.isCommand name = true ∧ p ≠ .top := by
  unfold Place.ofCommand? at h
  split at h
  · rename_i hname
    cases h
    rw [hname]
    decide
  · split at h
    · rename_i hname
      cases h
      rw [hname]
      decide
    · split at h
      · rename_i hname
        cases h
        rw [hname]
        decide
      · cases h

theorem parse_line (hname : Place.ofCommand? name = some p)
    (hplain : ∀ f ∈ before ++ after, f.IsPlain) :
    parse env (line before name after tail) = .ok i ↔
      Level.Sound .top (before.map Phrase.sense) ∧ Level.Sound p (after.map Phrase.sense) ∧
        (∀ args, tail = some args → args ≠ [] → p = .run) ∧
        Completable env (Level.saying (before.map Phrase.sense)) ∧
        Completable env (Level.saying (after.map Phrase.sense)) ∧
        i = invoked env (Level.saying (before.map Phrase.sense))
          (Level.saying (after.map Phrase.sense))
          (commandOf p { Level.saying (after.map Phrase.sense) with args := tail.getD [] }) := by
  have hbefore : ∀ f ∈ before, f.IsPlain := fun f hf => hplain f (List.mem_append_left _ hf)
  have hafter : ∀ f ∈ after, f.IsPlain := fun f hf => hplain f (List.mem_append_right _ hf)
  obtain ⟨hcommand, -⟩ := isCommand_of_ofCommand? hname
  rw [parse_eq_ok_iff_invoked]
  constructor
  · rintro ⟨top, word, rest, p', level, next, htop, hp, hlevel, hinner, houter, rfl⟩
    obtain ⟨hsound, rfl, hword⟩ := (Level.yields_before hbefore hcommand).1 htop
    obtain ⟨rfl, rfl⟩ := Prod.mk.inj hword
    obtain rfl := Option.some.inj (hname.symm.trans hp)
    obtain ⟨hsound', -, htail, rfl⟩ := (Level.yields_after hafter).1 hlevel
    exact ⟨hsound, hsound', htail, houter, ⟨hinner.1, hinner.2, hinner.3⟩, rfl⟩
  · rintro ⟨hsound, hsound', htail, houter, hinner, rfl⟩
    exact ⟨_, name, _, p, _, none, (Level.yields_before hbefore hcommand).2 ⟨hsound, rfl, rfl⟩,
      hname, (Level.yields_after hafter).2 ⟨hsound', rfl, htail, rfl⟩,
      ⟨hinner.1, hinner.2, hinner.3⟩, houter, rfl⟩

theorem givenKeys_append (as bs : List Sense) :
    givenKeys (as ++ bs) = givenKeys as ++ givenKeys bs := by
  simp [givenKeys]

theorem given?_append (as bs : List Sense) (s : Setting) :
    given? (as ++ bs) s = (given? as s).or (given? bs s) := by
  unfold given?
  rw [List.filterMap_append, List.lookup_append]

theorem Once.given?_eq_none (h : Once (said ++ said')) (s : Setting) :
    given? said s = none ∨ given? said' s = none := by
  have hnodup := h.settings
  rw [givenKeys_append, List.nodup_append] at hnodup
  obtain ⟨-, -, hne⟩ := hnodup
  rw [given?_eq_none_iff, given?_eq_none_iff]
  by_cases hs : s ∈ givenKeys said
  · exact Or.inr fun hs' => hne s hs s hs' rfl
  · exact Or.inl hs

theorem Once.or_given? (h : Once (said ++ said')) (s : Setting) :
    (given? said' s).or (given? said s) = given? (said ++ said') s := by
  rw [given?_append]
  rcases h.given?_eq_none s with hnone | hnone
  · rw [hnone, Option.or_none, Option.none_or]
  · rw [hnone, Option.or_none, Option.none_or]

theorem Once.sound_iff (h : Once (said ++ said')) (hjson : .json ∉ said) :
    Level.Sound .top said ∧ Level.Sound p said' ↔
      (∀ s v, .value s v ∈ said ++ said' → s.isPath = true → v ≠ "") ∧
        (said ++ said').count .json ≤ 1 ∧ (.json ∈ said ++ said' → p = .paths) := by
  have hzero : said.count .json = 0 := List.count_eq_zero.2 hjson
  constructor
  · rintro ⟨hbefore, hafter⟩
    refine ⟨?_, ?_, ?_⟩
    · intro s v hmem
      exact (List.mem_append.1 hmem).elim (hbefore.paths s v) (hafter.paths s v)
    · rw [List.count_append, hzero, Nat.zero_add]
      exact hafter.json
    · intro hmem
      exact hafter.place ((List.mem_append.1 hmem).resolve_left hjson)
  · rintro ⟨hpaths, hcount, hplace⟩
    have hnodup := h.settings
    rw [givenKeys_append, List.nodup_append] at hnodup
    obtain ⟨hkeys, hkeys', -⟩ := hnodup
    have hquiet := h.quiet
    rw [List.count_append] at hquiet hcount
    constructor
    · refine ⟨hkeys, ?_, by omega, by omega, ?_⟩
      · intro s v hmem
        exact hpaths s v (List.mem_append_left _ hmem)
      · intro hmem
        exact absurd hmem hjson
    · refine ⟨hkeys', ?_, by omega, by omega, ?_⟩
      · intro s v hmem
        exact hpaths s v (List.mem_append_right _ hmem)
      · intro hmem
        exact hplace (List.mem_append_right _ hmem)

/-- A variable that cannot be read is a fault, as one of the levels looks into it. -/
theorem Once.completable_iff (h : Once (said ++ said')) :
    Completable env (Level.saying said) ∧ Completable env (Level.saying said') ↔ Readable env := by
  constructor
  · rintro ⟨hbefore, hafter⟩
    -- what is given at one level is looked for in the environment at the other
    have hroot := (h.given?_eq_none .storageRoot).elim hbefore.storageRoot hafter.storageRoot
    have htag := (h.given?_eq_none .tag).elim hbefore.tag hafter.tag
    have hurl := (h.given?_eq_none .releaseUrl).elim hbefore.releaseUrl hafter.releaseUrl
    exact ⟨hroot, htag, hurl⟩
  · intro hread
    have hall : ∀ l, Completable env l := by
      intro l
      exact ⟨fun _ => hread.storageRoot, fun _ => hread.tag, fun _ => hread.releaseUrl⟩
    exact ⟨hall _, hall _⟩

theorem Once.invoked_eq (h : Once (said ++ said')) (hjson : .json ∉ said) (hp : p ≠ .top) :
    invoked env (Level.saying said) (Level.saying said')
        (commandOf p { Level.saying said' with args := tail.getD [] }) =
      wanted env p (said ++ said') tail := by
  have hflag : decide (Sense.json ∈ said') = decide (Sense.json ∈ said ++ said') := by
    simp [hjson]
  have hquiet : ((Level.saying said).quiet || (Level.saying said').quiet) =
      decide (Sense.quiet ∈ said ++ said') := by
    simp [Level.saying]
  have hcommand : commandOf p { Level.saying said' with args := tail.getD [] } =
      (wanted env p (said ++ said') tail).command := by
    cases p with
    | top => exact absurd rfl hp
    | ensure => rfl
    | paths => exact congrArg Command.paths hflag
    | run => rfl
  rw [hcommand]
  simp only [invoked, wanted, Level.value?_saying, h.or_given?, hquiet]

theorem given?_eq_some_iff (h : (givenKeys said).Nodup) {s : Setting} {v : String} :
    given? said s = some v ↔ .value s v ∈ said := by
  induction said with
  | nil => simp [given?]
  | cons x rest ih =>
    cases x with
    | value s' v' =>
      obtain ⟨hnew, hnodup⟩ : s' ∉ givenKeys rest ∧ (givenKeys rest).Nodup := List.nodup_cons.1 h
      rw [given?_value_cons]
      split
      · rename_i hs
        subst hs
        have hrest : .value s v ∉ rest := by
          intro hmem
          have hsome := (ih hnodup).2 hmem
          rw [given?_eq_none_iff.2 hnew] at hsome
          cases hsome
        simp [hrest, eq_comm]
      · rename_i hs
        rw [ih hnodup]
        simp [hs]
    | quiet =>
      rw [List.mem_cons, or_iff_right (by simp)]
      exact ih h
    | json =>
      rw [List.mem_cons, or_iff_right (by simp)]
      exact ih h

theorem givenKeys_perm (h : said.Perm said') : (givenKeys said).Perm (givenKeys said') :=
  (h.filterMap _).map _

theorem given?_perm (h : said.Perm said') (hkeys : (givenKeys said).Nodup) (s : Setting) :
    given? said s = given? said' s := by
  have hkeys' : (givenKeys said').Nodup := (givenKeys_perm h).nodup hkeys
  apply Option.ext
  intro v
  rw [given?_eq_some_iff hkeys, given?_eq_some_iff hkeys', h.mem_iff]

theorem wanted_perm (h : said.Perm said') (hkeys : (givenKeys said).Nodup) :
    wanted env p said tail = wanted env p said' tail := by
  simp only [wanted, given?_perm h hkeys, h.mem_iff]

theorem Acceptable.perm (h : said.Perm said') (ha : Acceptable env p said tail) :
    Acceptable env p said' tail where
  readable := ha.readable
  paths s v hmem := ha.paths s v (h.mem_iff.2 hmem)
  json := h.count_eq _ ▸ ha.json
  place hmem := ha.place (h.mem_iff.2 hmem)
  tail := ha.tail

theorem Once.perm (h : said.Perm said') (ho : Once said) : Once said' where
  settings := (givenKeys_perm h).nodup ho.settings
  quiet := h.count_eq _ ▸ ho.quiet

/-- A line is accepted if what it says can be, wherever it says it. -/
theorem parse_line_iff (hname : Place.ofCommand? name = some p)
    (hplain : ∀ f ∈ before ++ after, f.IsPlain) (hjson : .jsonWord ∉ before)
    (honce : Once ((before ++ after).map Phrase.sense)) :
    parse env (line before name after tail) = .ok i ↔
      Acceptable env p ((before ++ after).map Phrase.sense) tail ∧
        i = wanted env p ((before ++ after).map Phrase.sense) tail := by
  have hnot : .json ∉ before.map Phrase.sense := by
    intro hmem
    obtain ⟨f, hf, hsense⟩ := List.mem_map.1 hmem
    cases f with
    | jsonWord => exact hjson hf
    | _ => cases hsense
  obtain ⟨-, hp⟩ := isCommand_of_ofCommand? hname
  rw [parse_line hname hplain]
  rw [List.map_append] at honce ⊢
  rw [honce.invoked_eq hnot hp]
  constructor
  · rintro ⟨hbefore, hafter, htail, houter, hinner, rfl⟩
    obtain ⟨hpaths, hcount, hplace⟩ := (honce.sound_iff hnot).1 ⟨hbefore, hafter⟩
    exact ⟨⟨honce.completable_iff.1 ⟨houter, hinner⟩, hpaths, hcount, hplace, htail⟩, rfl⟩
  · rintro ⟨hacceptable, rfl⟩
    obtain ⟨hbefore, hafter⟩ := (honce.sound_iff hnot).2
      ⟨hacceptable.paths, hacceptable.json, hacceptable.place⟩
    obtain ⟨houter, hinner⟩ := honce.completable_iff.2 hacceptable.readable
    exact ⟨hbefore, hafter, hacceptable.tail, houter, hinner, rfl⟩

/-- Settings may stand anywhere. Two lines that say the same are both refused or both accepted, as
the same invocation; and it has what is said, or else what the environment holds, or else what is
built in. -/
theorem settings_stand_anywhere {before' after' : List Phrase}
    (hname : Place.ofCommand? name = some p) (hplain : ∀ f ∈ before ++ after, f.IsPlain)
    (hplain' : ∀ f ∈ before' ++ after', f.IsPlain) (hjson : .jsonWord ∉ before)
    (hjson' : .jsonWord ∉ before') (honce : Once ((before ++ after).map Phrase.sense))
    (hperm : ((before ++ after).map Phrase.sense).Perm ((before' ++ after').map Phrase.sense)) :
    (parse env (line before name after tail)).toOption =
        (parse env (line before' name after' tail)).toOption ∧
      ∀ i, parse env (line before name after tail) = .ok i ↔
        Acceptable env p ((before ++ after).map Phrase.sense) tail ∧
          i = wanted env p ((before ++ after).map Phrase.sense) tail := by
  have hsame : ∀ i, parse env (line before name after tail) = .ok i ↔
      parse env (line before' name after' tail) = .ok i := by
    intro i
    rw [parse_line_iff hname hplain hjson honce,
      parse_line_iff hname hplain' hjson' (honce.perm hperm), wanted_perm hperm honce.settings]
    exact and_congr_left fun _ => ⟨Acceptable.perm hperm, Acceptable.perm hperm.symm⟩
  constructor
  · apply Option.ext
    intro i
    rw [Tree.toOption_eq_some_iff, Tree.toOption_eq_some_iff]
    exact hsame i
  · intro i
    exact parse_line_iff hname hplain hjson honce

def heldSettings : Environment :=
  [("PROSEMD_DATA_DIR", [0x65]), ("PROSEMD_TAG", [0x76, 0x32]), ("PROSEMD_RELEASE_URL", [0x75])]

def rootFirst : List Phrase := [.apart .storageRoot "run", .quietLetter]

def tagLast : List Phrase := [.joined .tag "-v1"]

def rootLast : List Phrase := [.quietWord, .joined .storageRoot "run"]

/-- A root, a tag and the flag for quiet stand on either side of the command, where the variables
hold another root and another tag. -/
theorem root_and_tag_change_places :
    line rootFirst "run" tagLast (some ["-q"]) =
        ["--storage-root", "run", "-q", "run", "--tag=-v1", "--", "-q"] ∧
      line tagLast "run" rootLast (some ["-q"]) =
        ["--tag=-v1", "run", "--quiet", "--storage-root=run", "--", "-q"] ∧
      Once ((rootFirst ++ tagLast).map Phrase.sense) ∧
      ((rootFirst ++ tagLast).map Phrase.sense).Perm ((tagLast ++ rootLast).map Phrase.sense) ∧
      Acceptable heldSettings .run ((rootFirst ++ tagLast).map Phrase.sense) (some ["-q"]) ∧
      parse heldSettings (line rootFirst "run" tagLast (some ["-q"])) =
        .ok ⟨some (.ofText "run"), "-v1", some "u", none, true, .run ["-q"]⟩ ∧
      (parse heldSettings (line rootFirst "run" tagLast (some ["-q"]))).toOption =
        (parse heldSettings (line tagLast "run" rootLast (some ["-q"]))).toOption := by
  have hplain : ∀ f ∈ rootFirst ++ tagLast, f.IsPlain := by
    simp [rootFirst, tagLast, Phrase.IsPlain]
  have hplain' : ∀ f ∈ tagLast ++ rootLast, f.IsPlain := by
    simp [rootLast, tagLast, Phrase.IsPlain]
  have honce : Once ((rootFirst ++ tagLast).map Phrase.sense) := ⟨by decide, by decide⟩
  have hperm : ((rootFirst ++ tagLast).map Phrase.sense).Perm
      ((tagLast ++ rootLast).map Phrase.sense) := by decide
  have htag : HoldsText heldSettings "PROSEMD_TAG" := by
    intro bytes hbytes
    obtain rfl : [0x76, 0x32] = bytes := Option.some.inj hbytes
    decide +kernel
  have hurl : HoldsText heldSettings "PROSEMD_RELEASE_URL" := by
    intro bytes hbytes
    obtain rfl : [0x75] = bytes := Option.some.inj hbytes
    decide +kernel
  have hacceptable : Acceptable heldSettings .run ((rootFirst ++ tagLast).map Phrase.sense)
      (some ["-q"]) := by
    refine ⟨⟨by decide, htag, hurl⟩, ?_, by decide, by decide, ?_⟩
    · intro s v hmem
      simp only [rootFirst, tagLast, Phrase.sense, List.map_cons, List.map_nil, List.cons_append,
        List.nil_append, List.mem_cons, Sense.value.injEq, reduceCtorEq, List.not_mem_nil,
        or_false, false_or] at hmem
      rcases hmem with ⟨rfl, rfl⟩ | ⟨rfl, rfl⟩
      · decide
      · decide
    · intro _ _ _
      exact rfl
  obtain ⟨hsame, hparse⟩ := @settings_stand_anywhere heldSettings .run "run" rootFirst tagLast
    (some ["-q"]) tagLast rootLast rfl hplain hplain' (by decide) (by decide) honce hperm
  exact ⟨by decide, by decide, honce, hperm, hacceptable, (hparse _).2 ⟨hacceptable, by decide⟩,
    hsame⟩

/-- A root that is given does not help where the variable of the root is empty, as the command looks
into the environment on its own account. -/
theorem given_root_refused :
    line [.apart .storageRoot "x"] "ensure" [] none = ["--storage-root", "x", "ensure"] ∧
      (∃ i, parse [] ["--storage-root", "x", "ensure"] = .ok i ∧ i.storageRoot = some [0x78]) ∧
      ¬ ∃ i, parse [("PROSEMD_DATA_DIR", [])] ["--storage-root", "x", "ensure"] = .ok i := by
  refine ⟨by decide, ?_, ?_⟩
  · exact ⟨⟨some [0x78], "v0.1.0", none, none, false, .ensure⟩,
      Tree.toOption_eq_some_iff.1 (by decide +kernel), rfl⟩
  · rintro ⟨i, hparse⟩
    have hrefused : (parse [("PROSEMD_DATA_DIR", [])]
        ["--storage-root", "x", "ensure"]).toOption = none := by decide +kernel
    rw [hparse] at hrefused
    cases hrefused

end ServerLauncher.Cli
