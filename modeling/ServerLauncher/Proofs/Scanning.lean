import ServerLauncher.Cli.Usage

/-!
How the arguments of a level are gone through. The value of an option is looked at only when the
next argument arrives; what a level yields in the end does not depend on this delay. A command line
is accepted exactly if both of its levels yield something that can be completed.
-/

namespace ServerLauncher.Cli

theorem bind_eq_ok_iff {ε α β : Type} {e : Except ε α} {f : α → Except ε β} {b : β} :
    e >>= f = .ok b ↔ ∃ a, e = .ok a ∧ f a = .ok b := by
  cases e with
  | error fault => simp [bind, Except.bind]
  | ok a => simp [bind, Except.bind]

theorem mapError_eq_ok_iff {ε ε' α : Type} {x : Except ε α} {f : ε → ε'} {a : α} :
    x.mapError f = .ok a ↔ x = .ok a := by
  cases x with
  | error e =>
    constructor
    · intro h
      cases h
    · intro h
      cases h
  | ok b =>
    constructor
    · intro h
      exact congrArg _ (Except.ok.inj h)
    · intro h
      exact congrArg _ (Except.ok.inj h)

theorem Shape.ofArg_eq_separator {arg : String} (h : Shape.ofArg arg = .separator) :
    arg = "--" := by
  unfold Shape.ofArg at h
  split at h
  · rename_i hlist
    exact String.toList_inj.1 hlist
  all_goals cases h

theorem Shape.ofArg_ne_short_nil (arg : String) : Shape.ofArg arg ≠ .short [] := by
  unfold Shape.ofArg
  split <;> simp

namespace Level

variable {p : Place} {l l' m : Level} {args rest : List String}
  {next : Option (String × List String)}

theorem settle_of_pending (h : l.pending = none) : l.settle = .ok l := by
  rw [settle, h]

theorem record_eq_ok_iff {s : Setting} {v : String} :
    l.record s v = .ok l' ↔ l.value? s = none ∧ (s.isPath = true → v ≠ "") ∧
      l' = { l with values := l.values ++ [(s, v)] } := by
  unfold record
  cases l.value? s with
  | some old => simp
  | none =>
    rw [if_neg (by simp)]
    by_cases hpath : s.isPath = true ∧ v = ""
    · simp [hpath]
    · rw [if_neg hpath]
      constructor
      · intro h
        exact ⟨rfl, fun hp hv => hpath ⟨hp, hv⟩, (Except.ok.inj h).symm⟩
      · rintro ⟨-, -, rfl⟩
        rfl

theorem pending_of_settle (h : l.settle = .ok l') : l'.pending = none := by
  unfold settle at h
  split at h
  · rename_i hnone
    rw [← Except.ok.inj h, hnone]
  · cases h
  · obtain ⟨-, -, rfl⟩ := record_eq_ok_iff.1 h
    rfl

theorem settle_with_args (h : l.settle = .ok l') (args : List String) :
    settle { l' with args } = .ok { l' with args } :=
  have hpending : l'.pending = none := pending_of_settle h
  settle_of_pending hpending

theorem isWaiting_of_pending (h : l.pending = none) : l.isWaiting = false := by
  simp [isWaiting, h]

/-- The level that an argument leads to; none if it ends the level. -/
def step (p : Place) (l : Level) (arg : String) : Except UsageFault Level :=
  match Shape.ofArg arg with
  | .separator => .error .unknownArgument
  | .long name value => l.takeLong p name value
  | .short letters => takeShort p l letters
  | .word => if l.isWaiting then .ok (l.give arg) else .error p.stray

theorem scan_of_command (hwaits : l.isWaiting = false) {arg : String}
    (h : p.isCommand arg = true) : scan p l (arg :: rest) = .ok (l, some (arg, rest)) := by
  rw [scan, if_pos ⟨hwaits, h⟩]

theorem isCommand_separator (p : Place) : p.isCommand "--" = false := by
  cases p <;> decide

theorem scan_separator :
    scan p l ("--" :: rest) = (do return (← l.takeRest p rest, none)) := by
  have hshape : Shape.ofArg "--" = .separator := rfl
  have hnot : ¬(l.isWaiting = false ∧ p.isCommand "--" = true) := by simp [isCommand_separator]
  rw [scan, if_neg hnot, hshape]

theorem scan_eq_step {arg : String} (h : arg ≠ "--")
    (hcommand : l.isWaiting = true ∨ p.isCommand arg = false) :
    scan p l (arg :: rest) = (do scan p (← l.step p arg) rest) := by
  have hnot : ¬(l.isWaiting = false ∧ p.isCommand arg = true) := by
    rintro ⟨hwaits, hc⟩
    rcases hcommand with hc' | hc'
    · rw [hwaits] at hc'
      cases hc'
    · rw [hc] at hc'
      cases hc'
  rw [scan, if_neg hnot]
  unfold step
  cases hshape : Shape.ofArg arg with
  | separator => exact absurd (Shape.ofArg_eq_separator hshape) h
  | long name value => rfl
  | short letters => rfl
  | word =>
    dsimp only
    split
    · rfl
    · rfl

theorem scan_eq_ok_iff {arg : String} (h : arg ≠ "--")
    (hcommand : l.isWaiting = true ∨ p.isCommand arg = false) :
    scan p l (arg :: rest) = .ok (l', next) ↔
      ∃ m, l.step p arg = .ok m ∧ scan p m rest = .ok (l', next) := by
  rw [scan_eq_step h hcommand, bind_eq_ok_iff]

/-- The level that is left when the last value has been looked at as well. -/
def Yields (p : Place) (l : Level) (args : List String) (l' : Level)
    (next : Option (String × List String)) : Prop :=
  ∃ m, scan p l args = .ok (m, next) ∧ m.settle = .ok l'

theorem settle_bind_settle {α : Type} (l : Level) (f : Level → Except UsageFault α) :
    (do let m ← l.settle; let m ← m.settle; f m) = (do let m ← l.settle; f m) := by
  cases h : l.settle with
  | error e => rfl
  | ok m =>
    change (m.settle >>= f) = f m
    rw [settle_of_pending (pending_of_settle h)]
    rfl

theorem raise_eq (l : Level) (f : Flag) : l.raise f = (do (← l.settle).raise f) := by
  unfold raise
  rw [settle_bind_settle]

/-- What begins by looking at the value before it may find it looked at already. -/
theorem settle_bind_eq_ok_iff {α : Type} (l : Level) (f : Level → Except UsageFault α) {a : α} :
    l.settle >>= f = .ok a ↔ ∃ l₁, l.settle = .ok l₁ ∧ l₁.settle >>= f = .ok a := by
  rw [← settle_bind_settle, bind_eq_ok_iff]

theorem takeLong_eq_ok_iff {name : String} {value : Option String} :
    l.takeLong p name value = .ok m ↔
      ∃ l₁, l.settle = .ok l₁ ∧ l₁.takeLong p name value = .ok m := by
  unfold takeLong
  split
  · exact settle_bind_eq_ok_iff l _
  · exact settle_bind_eq_ok_iff l _
  · simp
  · rw [raise_eq, bind_eq_ok_iff]
  · simp

theorem takeShort_eq_ok_iff {c : Char} {letters : List Char} :
    takeShort p l (c :: letters) = .ok m ↔
      ∃ l₁, l.settle = .ok l₁ ∧ takeShort p l₁ (c :: letters) = .ok m := by
  unfold takeShort
  cases p.letter? c with
  | none => simp
  | some f =>
    dsimp only
    rw [raise_eq, bind_assoc, bind_eq_ok_iff]

theorem step_eq_ok_iff (hwaits : l.isWaiting = false) {arg : String} :
    l.step p arg = .ok m ↔ ∃ l₁, l.settle = .ok l₁ ∧ l₁.step p arg = .ok m := by
  unfold step
  cases hshape : Shape.ofArg arg with
  | separator => simp
  | long name value => exact takeLong_eq_ok_iff
  | short letters =>
    cases letters with
    | nil => exact absurd hshape (Shape.ofArg_ne_short_nil arg)
    | cons c letters => exact takeShort_eq_ok_iff
  | word =>
    constructor
    · simp [hwaits]
    · rintro ⟨l₁, hsettle, hstep⟩
      simp [isWaiting_of_pending (pending_of_settle hsettle)] at hstep

theorem takeRest_eq_ok (h : l.takeRest p rest = .ok m) :
    rest = [] ∧ m = l ∨
      rest ≠ [] ∧ p = .run ∧ ∃ l₁, l.settle = .ok l₁ ∧ m = { l₁ with args := rest } := by
  cases rest with
  | nil => exact Or.inl ⟨rfl, (Except.ok.inj h).symm⟩
  | cons arg rest =>
    cases p with
    | run =>
      obtain ⟨l₁, hsettle, hm⟩ := bind_eq_ok_iff.1 h
      exact Or.inr ⟨by simp, rfl, l₁, hsettle, (Except.ok.inj hm).symm⟩
    | top => cases h
    | ensure => cases h
    | paths => cases h

theorem takeRest_run (hsettle : l.settle = .ok m) (hrest : rest ≠ []) :
    l.takeRest .run rest = .ok { m with args := rest } := by
  cases rest with
  | nil => exact absurd rfl hrest
  | cons arg rest =>
    unfold takeRest
    rw [hsettle]
    rfl

theorem yields_separator :
    Yields p l ("--" :: rest) l' next ↔
      next = none ∧ (rest = [] ∨ p = .run) ∧
        ∃ l₁, l.settle = .ok l₁ ∧ l' = if rest = [] then l₁ else { l₁ with args := rest } := by
  unfold Yields
  rw [scan_separator]
  constructor
  · rintro ⟨m, hscan, hsettle⟩
    obtain ⟨m', hrest, hm⟩ := bind_eq_ok_iff.1 hscan
    obtain ⟨rfl, rfl⟩ := Prod.mk.inj (Except.ok.inj hm)
    rcases takeRest_eq_ok hrest with ⟨rfl, rfl⟩ | ⟨hne, rfl, l₁, hsettle', rfl⟩
    · exact ⟨rfl, Or.inl rfl, l', hsettle, rfl⟩
    · refine ⟨rfl, Or.inr rfl, l₁, hsettle', ?_⟩
      rw [settle_with_args hsettle'] at hsettle
      rw [if_neg hne]
      exact (Except.ok.inj hsettle).symm
  · rintro ⟨rfl, hrest, l₁, hsettle, rfl⟩
    by_cases hne : rest = []
    · subst hne
      exact ⟨l, rfl, hsettle⟩
    · obtain rfl : p = .run := hrest.resolve_left hne
      refine ⟨{ l₁ with args := rest }, ?_, ?_⟩
      · rw [takeRest_run hsettle hne]
        rfl
      · rw [if_neg hne]
        exact settle_with_args hsettle rest

/-- What a level yields does not depend on whether its last value has been looked at. -/
theorem yields_iff_settle (hwaits : l.isWaiting = false) :
    Yields p l args l' next ↔ ∃ l₁, l.settle = .ok l₁ ∧ Yields p l₁ args l' next := by
  have hagain : ∀ l₁, l.settle = .ok l₁ → l₁.settle = .ok l₁ ∧ l₁.isWaiting = false :=
    fun l₁ h =>
      ⟨settle_of_pending (pending_of_settle h), isWaiting_of_pending (pending_of_settle h)⟩
  cases args with
  | nil =>
    constructor
    · rintro ⟨m, hscan, hsettle⟩
      obtain ⟨rfl, rfl⟩ := Prod.mk.inj (Except.ok.inj hscan)
      exact ⟨l', hsettle, l', rfl, (hagain l' hsettle).1⟩
    · rintro ⟨l₁, hsettle, m, hscan, hm⟩
      obtain ⟨rfl, rfl⟩ := Prod.mk.inj (Except.ok.inj hscan)
      rw [(hagain l₁ hsettle).1] at hm
      exact ⟨l, rfl, hsettle.trans hm⟩
  | cons arg rest =>
    by_cases hsep : arg = "--"
    · subst hsep
      rw [yields_separator]
      constructor
      · rintro ⟨hnext, hrest, l₁, hsettle, hl⟩
        exact ⟨l₁, hsettle, yields_separator.2 ⟨hnext, hrest, l₁, (hagain l₁ hsettle).1, hl⟩⟩
      · rintro ⟨l₁, hsettle, hyields⟩
        obtain ⟨hnext, hrest, l₂, hsettle', hl⟩ := yields_separator.1 hyields
        rw [(hagain l₁ hsettle).1] at hsettle'
        exact ⟨hnext, hrest, l₂, hsettle.trans hsettle', hl⟩
    · by_cases hc : p.isCommand arg = true
      · unfold Yields
        rw [scan_of_command hwaits hc]
        constructor
        · rintro ⟨m, hscan, hsettle⟩
          obtain ⟨rfl, rfl⟩ := Prod.mk.inj (Except.ok.inj hscan)
          obtain ⟨hm, hnot⟩ := hagain l' hsettle
          exact ⟨l', hsettle, l', scan_of_command hnot hc, hm⟩
        · rintro ⟨l₁, hsettle, m, hscan, hm⟩
          obtain ⟨hl₁, hnot⟩ := hagain l₁ hsettle
          rw [scan_of_command hnot hc] at hscan
          obtain ⟨rfl, rfl⟩ := Prod.mk.inj (Except.ok.inj hscan)
          rw [hl₁] at hm
          exact ⟨l, rfl, hsettle.trans hm⟩
      · have hplain : p.isCommand arg = false := by simpa using hc
        constructor
        · rintro ⟨m, hscan, hsettle⟩
          obtain ⟨m₁, hstep, hscan'⟩ := (scan_eq_ok_iff hsep (Or.inr hplain)).1 hscan
          obtain ⟨l₁, hsettle', hstep'⟩ := (step_eq_ok_iff hwaits).1 hstep
          exact ⟨l₁, hsettle', m,
            (scan_eq_ok_iff hsep (Or.inr hplain)).2 ⟨m₁, hstep', hscan'⟩, hsettle⟩
        · rintro ⟨l₁, hsettle', m, hscan, hsettle⟩
          obtain ⟨m₁, hstep, hscan'⟩ := (scan_eq_ok_iff hsep (Or.inr hplain)).1 hscan
          exact ⟨m, (scan_eq_ok_iff hsep (Or.inr hplain)).2
            ⟨m₁, (step_eq_ok_iff hwaits).2 ⟨l₁, hsettle', hstep⟩, hscan'⟩, hsettle⟩

/-- An argument ends the level as its separator or as the command behind it, or leads on. -/
theorem scan_cases {arg : String} (h : scan p l (arg :: rest) = .ok (m, next)) :
    arg = "--" ∧ next = none ∨
      arg ≠ "--" ∧
        (l.isWaiting = false ∧ p.isCommand arg = true ∧ m = l ∧ next = some (arg, rest) ∨
          (l.isWaiting = true ∨ p.isCommand arg = false) ∧
            ∃ m₁, l.step p arg = .ok m₁ ∧ scan p m₁ rest = .ok (m, next)) := by
  by_cases hsep : arg = "--"
  · subst hsep
    rw [scan_separator] at h
    obtain ⟨m₁, -, hm⟩ := bind_eq_ok_iff.1 h
    cases hm
    exact Or.inl ⟨rfl, rfl⟩
  · refine Or.inr ⟨hsep, ?_⟩
    by_cases hc : l.isWaiting = false ∧ p.isCommand arg = true
    · rw [scan_of_command hc.1 hc.2] at h
      cases h
      exact Or.inl ⟨hc.1, hc.2, rfl, rfl⟩
    · have hplain : l.isWaiting = true ∨ p.isCommand arg = false := by
        simpa [Decidable.or_iff_not_imp_left] using hc
      exact Or.inr ⟨hplain, (scan_eq_ok_iff hsep hplain).1 h⟩

theorem exists_before_command {name : String}
    (h : scan p l args = .ok (m, some (name, rest))) :
    ∃ before, args = before ++ name :: rest ∧ "--" ∉ before ∧ name ≠ "--" := by
  induction args generalizing l with
  | nil => cases h
  | cons arg args ih =>
    rcases scan_cases h with ⟨-, hnone⟩ | ⟨hsep, ⟨-, -, -, hnext⟩ | ⟨-, m₁, -, hscan⟩⟩
    · cases hnone
    · cases hnext
      exact ⟨[], rfl, by simp, hsep⟩
    · obtain ⟨before, rfl, hnot, hname⟩ := ih hscan
      exact ⟨arg :: before, rfl, by simp [hnot, Ne.symm hsep], hname⟩

theorem next_eq_none (hp : p ≠ .top) (h : scan p l args = .ok (m, next)) : next = none := by
  induction args generalizing l with
  | nil =>
    cases h
    rfl
  | cons arg args ih =>
    rcases scan_cases h with ⟨-, hnone⟩ | ⟨-, ⟨-, hc, -⟩ | ⟨-, m₁, -, hscan⟩⟩
    · exact hnone
    · simp [Place.isCommand, hp] at hc
    · exact ih hscan

/-- What comes before the command is read whatever follows the command. -/
theorem scan_append_of_command {name : String} (h : scan p l args = .ok (m, some (name, rest)))
    (more : List String) : scan p l (args ++ more) = .ok (m, some (name, rest ++ more)) := by
  induction args generalizing l with
  | nil => cases h
  | cons arg args ih =>
    rcases scan_cases h with
      ⟨-, hnone⟩ | ⟨hsep, ⟨hwaits, hc, rfl, hnext⟩ | ⟨hplain, m₁, hstep, hscan⟩⟩
    · cases hnone
    · cases hnext
      exact scan_of_command hwaits hc
    · rw [List.cons_append, scan_eq_step hsep hplain, hstep]
      exact ih hscan

/-- Arguments that do not end the level can be read in two parts. -/
theorem scan_append_of_none (hsep : "--" ∉ args) (h : scan p l args = .ok (m, none))
    (more : List String) : scan p l (args ++ more) = scan p m more := by
  induction args generalizing l with
  | nil =>
    cases h
    rfl
  | cons arg args ih =>
    rcases scan_cases h with ⟨rfl, -⟩ | ⟨hne, ⟨-, -, -, hnext⟩ | ⟨hplain, m₁, hstep, hscan⟩⟩
    · exact absurd (List.mem_cons_self ..) hsep
    · cases hnext
    · rw [List.cons_append, scan_eq_step hne hplain, hstep]
      exact ih (fun hmem => hsep (List.mem_cons_of_mem _ hmem)) hscan

end Level

theorem withoutCommand_ne_ok (env : Environment) (top : Level) (i : Invocation) :
    withoutCommand env top ≠ .ok i := by
  intro h
  obtain ⟨l, -, h⟩ := bind_eq_ok_iff.1 h
  obtain ⟨settings, -, h⟩ := bind_eq_ok_iff.1 h
  cases h

/-- A command line is accepted as the settings of its two levels taken together. -/
theorem parse_eq_ok_iff {env : Environment} {args : List String} {i : Invocation} :
    parse env args = .ok i ↔
      ∃ top name rest p level next inner outer,
        Level.Yields .top { } args top (some (name, rest)) ∧ Place.ofCommand? name = some p ∧
          Level.Yields p { } rest level next ∧ Settings.complete env level = .ok inner ∧
          Settings.complete env top = .ok outer ∧
          (Settings.merge outer inner).invocation (commandOf p level) = i := by
  unfold parse
  rw [bind_eq_ok_iff]
  constructor
  · rintro ⟨⟨top, next⟩, hscan, h⟩
    cases next with
    | none => exact absurd h (withoutCommand_ne_ok env top i)
    | some word =>
      obtain ⟨name, rest⟩ := word
      dsimp only at h
      cases hp : Place.ofCommand? name with
      | none =>
        rw [hp] at h
        cases h
      | some p =>
        rw [hp] at h
        obtain ⟨⟨level, next⟩, hscan', h⟩ := bind_eq_ok_iff.1 h
        obtain ⟨level', hlevel, h⟩ := bind_eq_ok_iff.1 h
        obtain ⟨inner, hinner, h⟩ := bind_eq_ok_iff.1 h
        obtain ⟨top', htop, h⟩ := bind_eq_ok_iff.1 h
        obtain ⟨outer, houter, h⟩ := bind_eq_ok_iff.1 h
        exact ⟨top', name, rest, p, level', next, inner, outer, ⟨top, hscan, htop⟩, hp,
          ⟨level, hscan', hlevel⟩, hinner, houter, Except.ok.inj h⟩
  · rintro ⟨top', name, rest, p, level', next, inner, outer, ⟨top, hscan, htop⟩, hp,
      ⟨level, hscan', hlevel⟩, hinner, houter, rfl⟩
    refine ⟨(top, some (name, rest)), hscan, ?_⟩
    dsimp only
    rw [hp]
    refine bind_eq_ok_iff.2 ⟨(level, next), hscan', bind_eq_ok_iff.2 ⟨level', hlevel, ?_⟩⟩
    refine bind_eq_ok_iff.2 ⟨inner, hinner, bind_eq_ok_iff.2 ⟨top', htop, ?_⟩⟩
    exact bind_eq_ok_iff.2 ⟨outer, houter, rfl⟩

end ServerLauncher.Cli
