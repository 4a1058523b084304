import Mathlib.Data.List.Induction
import ServerLauncher.Proofs.Sources

/-!
How settings are written on a command line: the name and the value of an option stand in one word or
in two, and a flag is a word or a letter. A level that goes through words written in this way yields
what they say, in whatever way and order they say it.
-/

namespace ServerLauncher.Cli

/-- The argument gives a setting a value, or announces that its value follows. -/
def IsFor (s : Setting) (arg : String) : Prop :=
  arg = "--" ++ s.name ∨ ∃ value, arg = "--" ++ s.name ++ "=" ++ value

/-- Some argument in front of the separator is for a setting. -/
def Names (s : Setting) (args : List String) : Prop :=
  ∃ arg ∈ args.takeWhile (· ≠ "--"), IsFor s arg

theorem names_cons {s : Setting} {arg : String} {rest : List String} (h : arg ≠ "--") :
    Names s (arg :: rest) ↔ IsFor s arg ∨ Names s rest := by
  simp [Names, h]

theorem splitValue_name_sign (s : Setting) (value : List Char) :
    splitValue (s.name.toList ++ '=' :: value) = (s.name, some (String.ofList value)) := by
  cases s <;> rfl

theorem splitValue_cases (cs : List Char) :
    (splitValue cs).2 = none ∧ cs = (splitValue cs).1.toList ∨
      ∃ value, (splitValue cs).2 = some value ∧
        cs = (splitValue cs).1.toList ++ '=' :: value.toList := by
  have hsplit := List.takeWhile_append_dropWhile (p := (· != '=')) (l := cs)
  have hhead := List.head?_dropWhile_not (· != '=') cs
  unfold splitValue
  cases hdrop : cs.dropWhile (· != '=') with
  | nil =>
    rw [hdrop, List.append_nil] at hsplit
    exact Or.inl ⟨rfl, by simpa using hsplit.symm⟩
  | cons c value =>
    rw [hdrop] at hsplit hhead
    obtain rfl : c = '=' := by simpa using hhead
    exact Or.inr ⟨String.ofList value, rfl, by simpa using hsplit.symm⟩

namespace Shape

theorem ofArg_long {cs : List Char} (h : cs ≠ []) :
    ofArg (String.ofList ('-' :: '-' :: cs)) = .long (splitValue cs).1 (splitValue cs).2 := by
  unfold ofArg
  simp

theorem ofArg_name (s : Setting) : ofArg ("--" ++ s.name) = .long s.name none := by
  cases s <;> decide

theorem ofArg_name_sign (s : Setting) (value : String) :
    ofArg ("--" ++ s.name ++ "=" ++ value) = .long s.name (some value) := by
  have hword : "--" ++ s.name ++ "=" ++ value =
      String.ofList ('-' :: '-' :: (s.name.toList ++ '=' :: value.toList)) := by
    apply String.toList_inj.1
    simp
  rw [hword, ofArg_long (by simp), splitValue_name_sign, String.ofList_toList]

theorem isFor_of_ofArg {s : Setting} {arg : String} {value : Option String}
    (h : ofArg arg = .long s.name value) : IsFor s arg := by
  unfold ofArg at h
  split at h
  · cases h
  · rename_i cs hne hlist
    have hname : (splitValue cs).1 = s.name := (Shape.long.inj h).1
    rcases splitValue_cases cs with ⟨-, hcs⟩ | ⟨v, -, hcs⟩
    · refine Or.inl (String.toList_inj.1 ?_)
      rw [hlist, hcs, hname]
      simp
    · refine Or.inr ⟨v, String.toList_inj.1 ?_⟩
      rw [hlist, hcs, hname]
      simp
  · cases h
  · cases h

theorem ofArg_word {value : String} (h : value.toList.head? ≠ some '-') : ofArg value = .word := by
  unfold ofArg
  split
  · rename_i hlist
    simp [hlist] at h
  · rename_i hlist
    simp [hlist] at h
  · rename_i hlist
    simp [hlist] at h
  · rfl

end Shape

/-- What an option or a flag says. -/
inductive Sense where
  | value (s : Setting) (v : String)
  | quiet
  | json
  deriving DecidableEq, Repr

namespace Sense

def setting? : Sense → Option (Setting × String)
  | value s v => some (s, v)
  | _ => none

@[simp]
theorem setting?_value (s : Setting) (v : String) : (value s v).setting? = some (s, v) := rfl

@[simp]
theorem setting?_quiet : quiet.setting? = none := rfl

@[simp]
theorem setting?_json : json.setting? = none := rfl

end Sense

/-- The settings that are given values, in order. -/
def givenKeys (said : List Sense) : List Setting :=
  (said.filterMap Sense.setting?).map Prod.fst

/-- The value that is given to a setting. -/
def given? (said : List Sense) (s : Setting) : Option String :=
  (said.filterMap Sense.setting?).lookup s

theorem given?_eq_none_iff {said : List Sense} {s : Setting} :
    given? said s = none ↔ s ∉ givenKeys said := by
  unfold given? givenKeys
  rw [List.lookup_eq_none_iff]
  constructor
  · intro hnone hmem
    obtain ⟨given, hgiven, rfl⟩ := List.mem_map.1 hmem
    simpa using hnone given hgiven
  · intro hmem given hgiven
    have hne : s ≠ given.1 := fun he => hmem (List.mem_map.2 ⟨given, hgiven, he.symm⟩)
    simpa using hne

theorem given?_value_cons (s' : Setting) (v : String) (rest : List Sense) (s : Setting) :
    given? (.value s' v :: rest) s = if s = s' then some v else given? rest s := by
  by_cases hs : s = s'
  · subst hs
    simp [given?]
  · have hne : (s == s') = false := by simpa using hs
    simp [given?, hne, hs, List.lookup_cons]

/-- How it is written. -/
inductive Phrase where
  | apart (s : Setting) (v : String)
  | joined (s : Setting) (v : String)
  | quietWord
  | quietLetter
  | jsonWord
  deriving DecidableEq, Repr

namespace Phrase

def sense : Phrase → Sense
  | apart s v => .value s v
  | joined s v => .value s v
  | quietWord => .quiet
  | quietLetter => .quiet
  | jsonWord => .json

def words : Phrase → List String
  | apart s v => ["--" ++ s.name, v]
  | joined s v => ["--" ++ s.name ++ "=" ++ v]
  | quietWord => ["--quiet"]
  | quietLetter => ["-q"]
  | jsonWord => ["--json"]

/-- A value in a word of its own does not start with a hyphen. -/
def IsPlain : Phrase → Prop
  | apart _ v => v.toList.head? ≠ some '-'
  | _ => True

end Phrase

namespace Level

variable {p : Place} {l l' m : Level} {rest : List String} {next : Option (String × List String)}

theorem isCommand_of_hyphen {arg : String} (h : arg.toList.head? = some '-') :
    p.isCommand arg = false := by
  cases hcommand : p.isCommand arg with
  | false => rfl
  | true =>
    simp only [Place.isCommand, Place.commandNames, Bool.and_eq_true, List.contains_iff_mem,
      List.mem_cons, List.not_mem_nil, or_false] at hcommand
    obtain ⟨-, rfl | rfl | rfl | rfl⟩ := hcommand <;> simp at h

theorem yields_step {arg : String} (hshape : Shape.ofArg arg ≠ .separator)
    (hcommand : l.isWaiting = true ∨ p.isCommand arg = false) :
    Yields p l (arg :: rest) l' next ↔ ∃ m, l.step p arg = .ok m ∧ Yields p m rest l' next := by
  have hne : arg ≠ "--" := by
    rintro rfl
    exact hshape rfl
  unfold Yields
  constructor
  · rintro ⟨k, hscan, hsettle⟩
    obtain ⟨m, hstep, hscan'⟩ := (scan_eq_ok_iff hne hcommand).1 hscan
    exact ⟨m, hstep, k, hscan', hsettle⟩
  · rintro ⟨m, hstep, k, hscan, hsettle⟩
    exact ⟨k, (scan_eq_ok_iff hne hcommand).2 ⟨m, hstep, hscan⟩, hsettle⟩

def enter (l : Level) (p : Place) : Sense → Except UsageFault Level
  | .value s v => l.record s v
  | .quiet => l.raise .quiet
  | .json => if p = .paths then l.raise .json else .error .unknownArgument

theorem find?_name (s : Setting) : Setting.all.find? (·.name == s.name) = some s := by
  cases s <;> decide

theorem step_name (hl : l.pending = none) (s : Setting) :
    l.step p ("--" ++ s.name) = .ok { l with pending := some (s, none) } := by
  unfold step
  rw [Shape.ofArg_name]
  dsimp only
  unfold takeLong
  rw [find?_name, settle_of_pending hl]
  rfl

theorem step_name_sign (hl : l.pending = none) (s : Setting) (v : String) :
    l.step p ("--" ++ s.name ++ "=" ++ v) = l.record s v := by
  unfold step
  rw [Shape.ofArg_name_sign]
  dsimp only
  unfold takeLong
  rw [find?_name, settle_of_pending hl]
  rfl

theorem step_given {s : Setting} {v : String} (hplain : v.toList.head? ≠ some '-') :
    step p { l with pending := some (s, none) } v = .ok { l with pending := some (s, some v) } := by
  unfold step
  rw [Shape.ofArg_word hplain]
  rfl

theorem step_json (l : Level) : l.step p "--json" = l.enter p .json := by
  cases p <;> rfl

theorem yields_phrase {f : Phrase} (hl : l.pending = none) (hplain : f.IsPlain) :
    Yields p l (f.words ++ rest) l' next ↔
      ∃ m, l.enter p f.sense = .ok m ∧ Yields p m rest l' next := by
  have hword : ∀ arg, Shape.ofArg arg ≠ .separator → arg.toList.head? = some '-' →
      (Yields p l (arg :: rest) l' next ↔ ∃ m, l.step p arg = .ok m ∧ Yields p m rest l' next) :=
    fun arg hshape hhead => yields_step hshape (Or.inr (isCommand_of_hyphen hhead))
  cases f with
  | apart s v =>
    have hshape : Shape.ofArg ("--" ++ s.name) ≠ .separator := by simp [Shape.ofArg_name]
    have hshape' : Shape.ofArg v ≠ .separator := by simp [Shape.ofArg_word hplain]
    have hrecord : settle { l with pending := some (s, some v) } = l.record s v := by
      change record { l with pending := none } s v = l.record s v
      rw [← hl]
    change Yields p l (("--" ++ s.name) :: v :: rest) l' next ↔ _
    rw [yields_step hshape (Or.inr (isCommand_of_hyphen (by simp)))]
    simp only [step_name hl, Except.ok.injEq, exists_eq_left']
    rw [yields_step hshape' (Or.inl rfl)]
    simp only [step_given hplain, Except.ok.injEq, exists_eq_left']
    rw [yields_iff_settle rfl, hrecord]
    rfl
  | joined s v =>
    have hshape : Shape.ofArg ("--" ++ s.name ++ "=" ++ v) ≠ .separator := by
      simp [Shape.ofArg_name_sign]
    change Yields p l (("--" ++ s.name ++ "=" ++ v) :: rest) l' next ↔ _
    rw [hword _ hshape (by simp), step_name_sign hl]
    rfl
  | quietWord => exact hword "--quiet" (by decide) rfl
  | quietLetter =>
    change Yields p l ("-q" :: rest) l' next ↔ _
    have hletter : l.step p "-q" = l.raise .quiet := by
      change (do takeShort p (← l.raise .quiet) []) = l.raise .quiet
      cases l.raise .quiet <;> rfl
    rw [hword "-q" (by decide) rfl, hletter]
    rfl
  | jsonWord =>
    change Yields p l ("--json" :: rest) l' next ↔ _
    rw [hword "--json" (by decide) rfl, step_json]
    rfl

/-- The level that has taken all that is said. -/
def saying (said : List Sense) : Level where
  values := said.filterMap Sense.setting?
  quiet := decide (.quiet ∈ said)
  json := decide (.json ∈ said)

/-- One more thing can be said. -/
def Fits (p : Place) (said : List Sense) : Sense → Prop
  | .value s v => s ∉ givenKeys said ∧ (s.isPath = true → v ≠ "")
  | .quiet => .quiet ∉ said
  | .json => p = .paths ∧ .json ∉ said

/-- All of it can be said at one level: nothing twice, no empty path, and the flag for JSON only
where it belongs. -/
structure Sound (p : Place) (said : List Sense) : Prop where
  settings : (givenKeys said).Nodup
  paths : ∀ s v, .value s v ∈ said → s.isPath = true → v ≠ ""
  quiet : said.count .quiet ≤ 1
  json : said.count .json ≤ 1
  place : .json ∈ said → p = .paths

theorem sound_nil (p : Place) : Sound p [] :=
  ⟨by simp [givenKeys], by simp, by simp, by simp, by simp⟩

theorem givenKeys_concat (said : List Sense) (x : Sense) :
    givenKeys (said ++ [x]) = givenKeys said ++ (x.setting?.map Prod.fst).toList := by
  unfold givenKeys
  cases x <;> simp

theorem sound_concat {said : List Sense} {x : Sense} :
    Sound p (said ++ [x]) ↔ Sound p said ∧ Fits p said x := by
  have hcount : ∀ y, (said ++ [x]).count y ≤ 1 ↔ said.count y ≤ 1 ∧ (x = y → y ∉ said) := by
    intro y
    rw [List.count_append, List.count_singleton]
    by_cases hxy : x = y
    · subst hxy
      rw [if_pos (by simp), ← List.count_eq_zero]
      constructor
      · intro h
        exact ⟨by omega, fun _ => by omega⟩
      · rintro ⟨-, h⟩
        have := h rfl
        omega
    · simp [hxy]
  have hkeys : (givenKeys (said ++ [x])).Nodup ↔
      (givenKeys said).Nodup ∧ ∀ s v, x = .value s v → s ∉ givenKeys said := by
    rw [givenKeys_concat]
    cases x with
    | value s v =>
      simp only [Sense.setting?_value, Option.map_some, Option.toList_some, List.nodup_append,
        Sense.value.injEq]
      constructor
      · rintro ⟨hnodup, -, hne⟩
        refine ⟨hnodup, ?_⟩
        rintro s' v' ⟨rfl, rfl⟩ hmem
        exact hne s hmem s (by simp) rfl
      · rintro ⟨hnodup, hnot⟩
        refine ⟨hnodup, by simp, ?_⟩
        rintro k hk k' hk' rfl
        obtain rfl := List.mem_singleton.1 hk'
        exact hnot k v ⟨rfl, rfl⟩ hk
    | quiet => simp
    | json => simp
  constructor
  · rintro ⟨hsettings, hpaths, hquiet, hjson, hplace⟩
    rw [hkeys] at hsettings
    rw [hcount] at hquiet hjson
    refine ⟨⟨hsettings.1, fun s v hmem => hpaths s v (by simp [hmem]), hquiet.1, hjson.1,
      fun hmem => hplace (by simp [hmem])⟩, ?_⟩
    cases x with
    | value s v => exact ⟨hsettings.2 s v rfl, hpaths s v (by simp)⟩
    | quiet => exact hquiet.2 rfl
    | json => exact ⟨hplace (by simp), hjson.2 rfl⟩
  · rintro ⟨⟨hsettings, hpaths, hquiet, hjson, hplace⟩, hfits⟩
    refine ⟨hkeys.2 ⟨hsettings, ?_⟩, ?_, (hcount _).2 ⟨hquiet, ?_⟩, (hcount _).2 ⟨hjson, ?_⟩, ?_⟩
    · rintro s v rfl
      exact hfits.1
    · intro s v hmem
      rcases List.mem_append.1 hmem with hmem | hmem
      · exact hpaths s v hmem
      · obtain rfl := List.mem_singleton.1 hmem
        exact hfits.2
    · rintro rfl
      exact hfits
    · rintro rfl
      exact hfits.2
    · intro hmem
      rcases List.mem_append.1 hmem with hmem | hmem
      · exact hplace hmem
      · obtain rfl := List.mem_singleton.1 hmem
        exact hfits.1

theorem raise_quiet (hl : l.pending = none) :
    l.raise .quiet = .ok m ↔ l.quiet = false ∧ m = { l with quiet := true } := by
  unfold raise
  rw [settle_of_pending hl]
  change (if l.quiet = true then Except.error UsageFault.repeated
    else Except.ok { l with quiet := true }) = .ok m ↔ _
  cases l.quiet <;> simp [eq_comm]

theorem raise_json (hl : l.pending = none) :
    l.raise .json = .ok m ↔ l.json = false ∧ m = { l with json := true } := by
  unfold raise
  rw [settle_of_pending hl]
  change (if l.json = true then Except.error UsageFault.repeated
    else Except.ok { l with json := true }) = .ok m ↔ _
  cases l.json <;> simp [eq_comm]

theorem value?_saying (said : List Sense) (s : Setting) :
    (saying said).value? s = given? said s := rfl

theorem saying_quiet (said : List Sense) :
    saying (said ++ [.quiet]) = { saying said with quiet := true } := by
  simp [saying]

theorem saying_json (said : List Sense) :
    saying (said ++ [.json]) = { saying said with json := true } := by
  simp [saying]

theorem enter_saying {said : List Sense} {x : Sense} :
    (saying said).enter p x = .ok m ↔ Fits p said x ∧ m = saying (said ++ [x]) := by
  cases x with
  | value s v =>
    change (saying said).record s v = .ok m ↔ _
    rw [record_eq_ok_iff, value?_saying, given?_eq_none_iff, ← and_assoc]
    simp [Fits, saying]
  | quiet =>
    change (saying said).raise .quiet = .ok m ↔ _
    rw [raise_quiet rfl, saying_quiet]
    simp [Fits, saying]
  | json =>
    change (if p = .paths then (saying said).raise .json else _) = .ok m ↔ _
    split
    · rename_i hp
      rw [raise_json rfl, saying_json]
      simp [Fits, hp, saying]
    · rename_i hp
      simp [Fits, hp]

theorem yields_phrases {fs : List Phrase} (hplain : ∀ f ∈ fs, f.IsPlain) :
    Yields p { } (fs.flatMap Phrase.words ++ rest) l' next ↔
      Sound p (fs.map Phrase.sense) ∧ Yields p (saying (fs.map Phrase.sense)) rest l' next := by
  -- from the right, so that a phrase meets the level that all phrases before it have made
  induction fs using List.reverseRecOn generalizing rest with
  | nil => exact (and_iff_right (sound_nil p)).symm
  | append_singleton fs f ih =>
    have hbefore : ∀ g ∈ fs, g.IsPlain := fun g hg => hplain g (by simp [hg])
    rw [List.flatMap_append, List.append_assoc, List.flatMap_singleton, ih hbefore,
      yields_phrase rfl (hplain f (by simp)), List.map_append, List.map_singleton, sound_concat,
      and_assoc]
    simp only [enter_saying]
    constructor
    · rintro ⟨hsound, m, ⟨hfits, rfl⟩, hyields⟩
      exact ⟨hsound, hfits, hyields⟩
    · rintro ⟨hsound, hfits, hyields⟩
      exact ⟨hsound, _, ⟨hfits, rfl⟩, hyields⟩

end Level

end ServerLauncher.Cli
