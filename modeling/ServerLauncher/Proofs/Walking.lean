import ServerLauncher.Proofs.Steps

/-!
Walking along the steps of a path. The relation `Leads` says of each step what it needs in the tree
and where it leads; it holds exactly of the walks that arrive. A walk is decided by the entries
under the names of its own steps and of the links that it meets, so it is the same in two trees that
differ elsewhere, and a walk that arrives still arrives when entries are added.
-/

namespace ServerLauncher

namespace Tree

variable {t u : Tree}

/-- A step that stays where it is. -/
def IsIdle (step : String) : Prop := step = "" ∨ step = "."

theorem IsName.not_isIdle {name : String} (hn : IsName name) : ¬IsIdle name :=
  not_or.2 ⟨hn.ne_empty, hn.ne_dot⟩

/-- Where the steps lead from a directory, with a number of links to spare. -/
inductive Leads (t : Tree) : Nat → Key → List String → Key → Prop
  | nil (n : Nat) (dir : Key) : Leads t n dir [] dir
  | idle {n : Nat} {dir d : Key} {step : String} {rest : List String} :
      IsIdle step → Leads t n dir rest d → Leads t n dir (step :: rest) d
  | up {n : Nat} {dir d : Key} {rest : List String} :
      Leads t n dir.tail rest d → Leads t n dir (".." :: rest) d
  | down {n : Nat} {dir d : Key} {step : String} {rest : List String} :
      ¬IsIdle step → step ≠ ".." → step.utf8ByteSize ≤ 255 → t.get? (step :: dir) = some .dir →
      Leads t n (step :: dir) rest d → Leads t n dir (step :: rest) d
  | file {n : Nat} {dir : Key} {step : String} {mode : Nat} {content : Bytes} :
      ¬IsIdle step → step ≠ ".." → step.utf8ByteSize ≤ 255 →
      t.get? (step :: dir) = some (.file mode content) → Leads t n dir [step] (step :: dir)
  | link {n : Nat} {dir d : Key} {step target : String} {rest : List String} :
      ¬IsIdle step → step ≠ ".." → step.utf8ByteSize ≤ 255 →
      t.get? (step :: dir) = some (.link target) →
      Leads t n (origin dir target) (steps target ++ rest) d → Leads t (n + 1) dir (step :: rest) d

/-- How a walk goes on at a link. -/
def jump (t : Tree) : Nat → Key → List String → Except OsError Key
  | 0 => fun _ _ => .error .loop
  | n + 1 => t.walk n

theorem walk_eq_walkWith (t : Tree) (n : Nat) : t.walk n = t.walkWith (t.jump n) := by
  cases n <;> rfl

theorem walk_nil (t : Tree) (n : Nat) (dir : Key) : t.walk n dir [] = .ok dir := by
  rw [walk_eq_walkWith]
  rfl

theorem walk_idle (t : Tree) (n : Nat) (dir : Key) {step : String} (h : IsIdle step)
    (rest : List String) : t.walk n dir (step :: rest) = t.walk n dir rest := by
  rw [walk_eq_walkWith, walkWith]
  exact if_pos h

theorem walk_up (t : Tree) (n : Nat) (dir : Key) (rest : List String) :
    t.walk n dir (".." :: rest) = t.walk n dir.tail rest := by
  rw [walk_eq_walkWith, walkWith, if_neg (by decide), if_pos rfl]

theorem walk_name (t : Tree) (n : Nat) (dir : Key) {step : String} (hi : ¬IsIdle step)
    (hu : step ≠ "..") (rest : List String) :
    t.walk n dir (step :: rest) =
      if 255 < step.utf8ByteSize then .error .nameTooLong
      else
        match t.get? (step :: dir) with
        | none => .error .noEntry
        | some .dir => t.walk n (step :: dir) rest
        | some (.file ..) => if rest = [] then .ok (step :: dir) else .error .notDirectory
        | some (.link target) => t.jump n (origin dir target) (steps target ++ rest) := by
  rw [walk_eq_walkWith, walkWith]
  exact (if_neg hi).trans (if_neg hu)

theorem walk_of_leads {n : Nat} {dir d : Key} {ss : List String} (h : Leads t n dir ss d) :
    t.walk n dir ss = .ok d := by
  induction h with
  | nil n dir => exact walk_nil t n dir
  | idle hi _ ih => rw [walk_idle t _ _ hi, ih]
  | up _ ih => rw [walk_up, ih]
  | down hi hu hs hg _ ih => rw [walk_name t _ _ hi hu, if_neg (by omega), hg, ih]
  | file hi hu hs hg => rw [walk_name t _ _ hi hu, if_neg (by omega), hg]; rfl
  | link hi hu hs hg _ ih => rw [walk_name t _ _ hi hu, if_neg (by omega), hg]; exact ih

theorem leads_of_walk {n : Nat} {dir d : Key} {ss : List String} (h : t.walk n dir ss = .ok d) :
    Leads t n dir ss d := by
  induction n using Nat.strongRecOn generalizing dir d ss with
  | ind n ihn =>
    induction ss generalizing dir with
    | nil =>
      rw [walk_nil] at h
      cases h
      exact .nil _ _
    | cons step rest ih =>
      by_cases hi : IsIdle step
      · rw [walk_idle t _ _ hi] at h
        exact .idle hi (ih h)
      · by_cases hu : step = ".."
        · subst hu
          rw [walk_up] at h
          exact .up (ih h)
        · rw [walk_name t _ _ hi hu] at h
          split at h
          · cases h
          · rename_i hs
            have hs' : step.utf8ByteSize ≤ 255 := by omega
            split at h
            · cases h
            · rename_i hg
              exact .down hi hu hs' hg (ih h)
            · rename_i hg
              split at h
              · rename_i hr
                cases h
                subst hr
                exact .file hi hu hs' hg
              · cases h
            · rename_i hg
              cases n with
              | zero => cases h
              | succ m => exact .link hi hu hs' hg (ihn m (by omega) h)

theorem walk_eq_ok_iff {n : Nat} {dir d : Key} {ss : List String} :
    t.walk n dir ss = .ok d ↔ Leads t n dir ss d :=
  ⟨leads_of_walk, walk_of_leads⟩

/-- What arrives in a tree arrives in every tree that has at least the same entries. -/
theorem Leads.mono (h : ∀ k e, t.get? k = some e → u.get? k = some e) {n : Nat} {dir d : Key}
    {ss : List String} (hl : Leads t n dir ss d) : Leads u n dir ss d := by
  induction hl with
  | nil n dir => exact .nil n dir
  | idle hi _ ih => exact .idle hi ih
  | up _ ih => exact .up ih
  | down hi hu hs hg _ ih => exact .down hi hu hs (h _ _ hg) ih
  | file hi hu hs hg => exact .file hi hu hs (h _ _ hg)
  | link hi hu hs hg _ ih => exact .link hi hu hs (h _ _ hg) ih

/-- The last step, if there is one, leads nowhere. -/
def EndsIdle (ss : List String) : Prop := ∀ s, ss.getLast? = some s → IsIdle s

namespace EndsIdle

variable {step : String} {rest : List String}

theorem slash (xs : List String) : EndsIdle (xs ++ [""]) := by
  intro s hs
  exact Or.inl (by simpa using hs.symm)

theorem tail (h : EndsIdle (step :: rest)) : EndsIdle rest := by
  intro s hs
  exact h s (by rw [List.getLast?_cons, hs]; rfl)

theorem ne_nil (h : EndsIdle (step :: rest)) (hi : ¬IsIdle step) : rest ≠ [] := by
  rintro rfl
  exact hi (h step rfl)

theorem append (h : EndsIdle rest) (hne : rest ≠ []) (xs : List String) :
    EndsIdle (xs ++ rest) := by
  intro s hs
  obtain ⟨x, hx⟩ := Option.isSome_iff_exists.1 (List.getLast?_isSome.2 hne)
  rw [List.getLast?_append, hx] at hs
  exact h s (hx.trans hs)

end EndsIdle

/-- Steps that arrive are idle, lead upwards, or are names of entries. -/
theorem Leads.exists_entry {n : Nat} {dir d : Key} {ss : List String} (hl : Leads t n dir ss d) :
    ∀ s ∈ ss, IsIdle s ∨ s = ".." ∨ ∃ k, (t.get? (s :: k)).isSome := by
  induction hl with
  | nil n dir => simp
  | idle hi _ ih =>
    intro s hs
    rcases List.mem_cons.1 hs with rfl | hs
    · exact Or.inl hi
    · exact ih s hs
  | up _ ih =>
    intro s hs
    rcases List.mem_cons.1 hs with rfl | hs
    · exact Or.inr (Or.inl rfl)
    · exact ih s hs
  | down _ _ _ hg _ ih =>
    intro s hs
    rcases List.mem_cons.1 hs with rfl | hs
    · exact Or.inr (Or.inr ⟨_, by rw [hg]; rfl⟩)
    · exact ih s hs
  | file _ _ _ hg =>
    intro s hs
    obtain rfl := List.mem_singleton.1 hs
    exact Or.inr (Or.inr ⟨_, by rw [hg]; rfl⟩)
  | link _ _ _ hg _ ih =>
    intro s hs
    rcases List.mem_cons.1 hs with rfl | hs
    · exact Or.inr (Or.inr ⟨_, by rw [hg]; rfl⟩)
    · exact ih s (List.mem_append_right _ hs)

/-- A walk that arrives with a slash at its end goes on in the same way with any other steps. -/
theorem Leads.append {n : Nat} {dir d : Key} {xs : List String}
    (hl : Leads t n dir (xs ++ [""]) d) :
    ∃ m, ∀ ys, t.walk n dir (xs ++ ys) = t.walk m d ys := by
  generalize hss : xs ++ [""] = ss at hl
  induction hl generalizing xs with
  | nil n dir => simp at hss
  | @idle n dir d step rest hi hr ih =>
    cases xs with
    | nil =>
      obtain ⟨rfl, rfl⟩ : step = "" ∧ rest = [] := by simpa [eq_comm] using hss
      cases hr
      exact ⟨n, fun ys => rfl⟩
    | cons x xs =>
      obtain ⟨rfl, hrest⟩ := List.cons.inj hss
      obtain ⟨m, hm⟩ := ih hrest
      exact ⟨m, fun ys => by rw [List.cons_append, walk_idle t _ _ hi, hm]⟩
  | up _ ih =>
    cases xs with
    | nil => simp at hss
    | cons x xs =>
      obtain ⟨rfl, hrest⟩ := List.cons.inj hss
      obtain ⟨m, hm⟩ := ih hrest
      exact ⟨m, fun ys => by rw [List.cons_append, walk_up, hm]⟩
  | down hi hu hs hg _ ih =>
    cases xs with
    | nil => exact absurd (Or.inl (List.cons.inj hss).1.symm) hi
    | cons x xs =>
      obtain ⟨rfl, hrest⟩ := List.cons.inj hss
      obtain ⟨m, hm⟩ := ih hrest
      refine ⟨m, ?_⟩
      intro ys
      rw [List.cons_append, walk_name t _ _ hi hu, if_neg (by omega), hg]
      exact hm ys
  | file hi hu hs hg =>
    cases xs with
    | nil => exact absurd (Or.inl (List.cons.inj hss).1.symm) hi
    | cons x xs => simp at hss
  | link hi hu hs hg _ ih =>
    cases xs with
    | nil => exact absurd (Or.inl (List.cons.inj hss).1.symm) hi
    | cons x xs =>
      obtain ⟨rfl, hrest⟩ := List.cons.inj hss
      obtain ⟨m, hm⟩ := ih ((List.append_assoc ..).trans (congrArg _ hrest))
      refine ⟨m, ?_⟩
      intro ys
      rw [List.cons_append, walk_name t _ _ hi hu, if_neg (by omega), hg]
      simpa [jump, List.append_assoc] using hm ys

theorem Leads.slash {n : Nat} {dir d : Key} {xs : List String} (hl : Leads t n dir xs d)
    (hd : t.isDir d) : Leads t n dir (xs ++ [""]) d := by
  induction hl with
  | nil n dir => exact .idle (Or.inl rfl) (.nil n dir)
  | idle hi _ ih => exact .idle hi (ih hd)
  | up _ ih => exact .up (ih hd)
  | down hi hu hs hg _ ih => exact .down hi hu hs hg (ih hd)
  | file hi hu hs hg => simp [isDir, hg, Entry.isDir] at hd
  | link hi hu hs hg _ ih =>
    have hrest := ih hd
    rw [List.append_assoc] at hrest
    exact .link hi hu hs hg hrest

theorem walk_proper (t : Tree) (n : Nat) (dir : Key) (ss : List String) :
    t.walk n dir (ss ++ [""]) = t.walk n dir (proper ss ++ [""]) := by
  induction n using Nat.strongRecOn generalizing dir ss with
  | ind n ihn =>
    induction ss generalizing dir with
    | nil => rfl
    | cons step rest ih =>
      by_cases hi : IsIdle step
      · have hstep : proper (step :: rest) = proper rest := by
          rcases hi with rfl | rfl <;> rfl
        rw [hstep, List.cons_append, walk_idle t _ _ hi, ih]
      · have hstep : proper (step :: rest) = step :: proper rest := by
          have h := not_or.1 hi
          simp [proper, h.1, h.2]
        rw [hstep, List.cons_append, List.cons_append]
        by_cases hu : step = ".."
        · subst hu
          rw [walk_up, walk_up, ih]
        · rw [walk_name t _ _ hi hu, walk_name t _ _ hi hu]
          have hjump : ∀ target, t.jump n (origin dir target) (steps target ++ (rest ++ [""])) =
              t.jump n (origin dir target) (steps target ++ (proper rest ++ [""])) := by
            intro target
            cases n with
            | zero => rfl
            | succ m =>
              have hp : proper (steps target ++ rest) = proper (steps target ++ proper rest) := by
                simp [proper]
              simp only [jump]
              rw [← List.append_assoc, ← List.append_assoc, ihn m (by omega), hp,
                ← ihn m (by omega)]
          simp only [ih, hjump]
          simp

/-- Walks with a slash at their end agree when their steps are the same up to idle ones. -/
theorem walk_slash_congr {xs ys : List String} (h : proper xs = proper ys) (n : Nat) (dir : Key) :
    t.walk n dir (xs ++ [""]) = t.walk n dir (ys ++ [""]) := by
  rw [walk_proper, h, ← walk_proper]

theorem not_mem_of_pathFault? {path : String} (h : pathFault? path = none) :
    '\x00' ∉ path.toList := by
  unfold pathFault? at h
  split at h
  · cases h
  · rename_i hnul
    simpa using hnul

theorem locateParent_eq_ok_iff {cwd d : Key} {path : String} {last : LastStep} :
    t.locateParent cwd path = .ok (d, last) ↔
      pathFault? path = none ∧ (splitLast path).2 = last ∧
        Leads t linkLimit (origin cwd path) (splitLast path).1 d := by
  simp only [locateParent]
  cases hf : pathFault? path with
  | some fault => simp
  | none =>
    rw [← walk_eq_ok_iff]
    cases hw : t.walk linkLimit (origin cwd path) (splitLast path).1 with
    | error e => simp
    | ok k => simp [and_comm]

theorem toOption_eq_some_iff {ε α : Type} {x : Except ε α} {a : α} :
    x.toOption = some a ↔ x = .ok a := by
  cases x <;> simp [Except.toOption]

/-- The directory that a path leads to. -/
def directoryAt (t : Tree) (cwd : Key) (path : String) : Option Key :=
  (t.walk linkLimit (origin cwd path) (steps path ++ [""])).toOption

theorem directoryAt_eq_some_iff {cwd d : Key} {path : String} :
    t.directoryAt cwd path = some d ↔
      Leads t linkLimit (origin cwd path) (steps path ++ [""]) d := by
  rw [directoryAt, toOption_eq_some_iff, walk_eq_ok_iff]

theorem directoryAt_mono (h : ∀ k e, t.get? k = some e → u.get? k = some e) {cwd d : Key}
    {path : String} (hd : t.directoryAt cwd path = some d) : u.directoryAt cwd path = some d :=
  directoryAt_eq_some_iff.2 ((directoryAt_eq_some_iff.1 hd).mono h)

theorem locateParent_name_iff {cwd d : Key} {path up name : String} {slash : Bool}
    (hup : FilePath.parent? path = some up) (hlast : (splitLast path).2 = .name name slash) :
    t.locateParent cwd path = .ok (d, .name name slash) ↔
      pathFault? path = none ∧ t.directoryAt cwd up = some d := by
  obtain ⟨dirs, hdirs, -, -⟩ := proper_of_splitLast (Prod.ext rfl hlast)
  have hsplit : splitLast path = (dirs ++ [""], .name name slash) := Prod.ext hdirs hlast
  obtain ⟨hproper, habs⟩ := parent_of_splitLast hsplit hup
  have horigin : origin cwd up = origin cwd path := by rw [origin, origin, habs]
  rw [locateParent_eq_ok_iff, directoryAt_eq_some_iff, hsplit, ← walk_eq_ok_iff, ← walk_eq_ok_iff,
    horigin, walk_slash_congr hproper]
  exact ⟨fun h => ⟨h.1, h.2.2⟩, fun h => ⟨h.1, rfl, h.2⟩⟩

theorem locateParent_join_iff {cwd d : Key} {base name : String} {last : LastStep}
    (hn : IsName name) :
    t.locateParent cwd (FilePath.join base name) = .ok (d, last) ↔
      pathFault? (FilePath.join base name) = none ∧ last = .name name false ∧
        t.directoryAt cwd base = some d := by
  obtain ⟨dirs, hsteps, hproper⟩ := steps_join base hn
  rw [locateParent_eq_ok_iff, directoryAt_eq_some_iff, splitLast_of_steps hn hsteps,
    origin_join hn, ← walk_eq_ok_iff, ← walk_eq_ok_iff, walk_slash_congr hproper]
  exact and_congr_right fun _ => and_congr_left fun _ => eq_comm

theorem locateParent_join {cwd d : Key} {base name : String} {last : LastStep} (hn : IsName name)
    (h : t.locateParent cwd (FilePath.join base name) = .ok (d, last)) :
    last = .name name false ∧ t.directoryAt cwd base = some d :=
  ((locateParent_join_iff hn).1 h).2

theorem stat_join {cwd d : Key} {base name : String} {mode : Nat} {content : Bytes}
    (hn : IsName name) (hfault : pathFault? (FilePath.join base name) = none)
    (hsize : name.utf8ByteSize ≤ 255) (hd : t.directoryAt cwd base = some d)
    (hg : t.get? (name :: d) = some (.file mode content)) :
    t.stat cwd (FilePath.join base name) = .ok (.file mode content) := by
  obtain ⟨dirs, hsteps, hproper⟩ := steps_join base hn
  rw [directoryAt_eq_some_iff, ← walk_eq_ok_iff, ← walk_slash_congr hproper, walk_eq_ok_iff] at hd
  obtain ⟨m, hm⟩ := hd.append
  have hfile : t.walk m d [name] = .ok (name :: d) := by
    rw [walk_name t m d hn.not_isIdle hn.ne_dots, if_neg (by omega), hg]
    rfl
  have hlocate : t.locate cwd (FilePath.join base name) = .ok (name :: d) := by
    simp only [locate, hfault, hsteps, origin_join hn, hm, hfile]
    rfl
  simp only [stat, hlocate, hg]

/-- The entry that a path names, a link not followed. -/
def entryAt (t : Tree) (cwd : Key) (path : String) : Option Entry :=
  match t.locateParent cwd path with
  | .ok (dir, .name name _) => t.get? (name :: dir)
  | _ => none

end Tree

end ServerLauncher
