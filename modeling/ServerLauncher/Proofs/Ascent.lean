import ServerLauncher.Proofs.Directories

/-!
From a path to those above it. What a path lies in is the start of its text and of its steps, so
there is a way down only as far as the paths above are directories; where one of them is missing,
all that lies below is missing too.
-/

namespace ServerLauncher

theorem Text.intercalate_prefix {separator : Char} {as bs : List (List Char)} (h : as <+: bs) :
    [separator].intercalate as <+: [separator].intercalate bs := by
  induction as generalizing bs with
  | nil => exact List.nil_prefix
  | cons a as ih =>
    obtain ⟨bs, rfl, hrest⟩ := List.cons_prefix_iff.1 h
    cases as with
    | nil =>
      cases bs with
      | nil => exact List.prefix_refl _
      | cons b bs =>
        rw [List.intercalate_cons_cons, List.append_assoc, List.intercalate_singleton]
        exact List.prefix_append _ _
    | cons a' as =>
      obtain ⟨bs', rfl, -⟩ := List.cons_prefix_iff.1 hrest
      rw [List.intercalate_cons_cons, List.intercalate_cons_cons]
      exact List.prefix_append_right_inj _ |>.2 (ih hrest)

namespace FilePath

/-- A path, or one that it lies in, or one that this lies in, and so on. -/
inductive OnWay : String → String → Prop
  | self (path : String) : OnWay path path
  | above {p up path : String} : parent? path = some up → OnWay p up → OnWay p path

variable {p q up path : String}

theorem parent?_prefix (h : parent? path = some up) : up.toList <+: path.toList := by
  obtain ⟨cs, hcs, rfl⟩ := Option.map_eq_some_iff.1 h
  rw [String.toList_ofList]
  rcases parentChars?_cases hcs with ⟨-, -, rfl⟩ | ⟨before, last, hbody, rfl⟩
  · exact List.nil_prefix
  · have hpre : dropIdleEnd before <+:
        Text.splitOn '/' (path.toList.drop (lead path.toList).length) :=
      (FilePath.dropIdleEnd_prefix before).trans
        ((List.prefix_append before [last]).trans (hbody ▸ FilePath.dropIdleEnd_prefix _))
    have hrest : ['/'].intercalate (dropIdleEnd before) <+: _ := Text.intercalate_prefix hpre
    rw [Text.intercalate_splitOn] at hrest
    have hall := (List.prefix_append_right_inj (lead path.toList)).2 hrest
    rwa [lead_append_drop] at hall

theorem parent?_ne_self (h : parent? path = some up) : up ≠ path := by
  rintro rfl
  obtain ⟨-, ⟨hne, -, hempty⟩ | ⟨last, hlast⟩⟩ := Tree.steps_parent h
  · exact hne hempty
  · exact List.cons_ne_nil _ _ (List.self_eq_append_right.1 hlast)

theorem parent?_eq_append (h : parent? path = some up) : ∃ rest, path = up ++ rest ∧ rest ≠ "" := by
  obtain ⟨rest, hrest⟩ := parent?_prefix h
  refine ⟨String.ofList rest, String.ext (by simpa using hrest.symm), ?_⟩
  rintro hempty
  refine parent?_ne_self h (String.ext ?_)
  rw [← hrest, String.ofList_eq_empty_iff.1 hempty, List.append_nil]

theorem parent?_length (h : parent? path = some up) : up.length < path.length := by
  obtain ⟨rest, rfl, hrest⟩ := parent?_eq_append h
  have hpos : 0 < rest.length := Nat.pos_of_ne_zero (mt String.length_eq_zero_iff.1 hrest)
  rw [String.length_append]
  omega

theorem parent?_empty : parent? "" = none := by decide +kernel

theorem OnWay.eq_of_empty (h : OnWay p "") : p = "" := by
  cases h with
  | self => rfl
  | above hup => cases parent?_empty.symm.trans hup

theorem OnWay.total (h : OnWay p path) (h' : OnWay q path) : OnWay p q ∨ OnWay q p := by
  induction h with
  | self => exact Or.inr h'
  | @above up path hup hp ih =>
    cases h' with
    | self => exact Or.inl (.above hup hp)
    | above hup' hq =>
      obtain rfl := Option.some.inj (hup.symm.trans hup')
      exact ih hq

end FilePath

namespace Tree

variable {t : Tree} {cwd : Key} {path up : String} {n : Nat} {dir d : Key}
  {ss : List String}

theorem pathFault?_parent (hup : FilePath.parent? path = some up) (hne : up ≠ "")
    (h : pathFault? path = none) : pathFault? up = none := by
  obtain ⟨rest, rfl, -⟩ := FilePath.parent?_eq_append hup
  have hnul : '\x00' ∉ (up ++ rest).toList := not_mem_of_pathFault? h
  have hsize : (up ++ rest).utf8ByteSize < 4096 := by
    rw [pathFault?, if_neg (by simpa using hnul)] at h
    split at h
    · cases h
    · split at h
      · cases h
      · omega
  rw [String.utf8ByteSize_append] at hsize
  rw [String.toList_append, List.mem_append, not_or] at hnul
  rw [pathFault?, if_neg (by simpa using hnul.1), if_neg hne, if_neg (by omega)]

theorem proper_of_root (h : (splitLast path).2 = .root) : proper (steps path) = [] := by
  simp only [splitLast] at h
  cases hlast : ((steps path).reverse.dropWhile (· == "")).reverse.getLast? with
  | some last =>
    rw [hlast] at h
    dsimp only at h
    split at h <;> cases h
  | none =>
    have hsplit := List.takeWhile_append_dropWhile (p := (· == "")) (l := (steps path).reverse)
    rw [List.getLast?_eq_none_iff, List.reverse_eq_nil_iff] at hlast
    rw [hlast, List.append_nil] at hsplit
    have hall := List.all_takeWhile (p := (· == "")) (l := (steps path).reverse)
    rw [hsplit] at hall
    exact proper_of_all_empty fun s hs => by
      simpa using List.all_eq_true.1 hall s (List.mem_reverse.2 hs)

theorem proper_slash (ss : List String) : proper (ss ++ [""]) = proper ss :=
  (proper_append _ _).trans (List.append_nil _)

theorem proper_splitLast_parent (hup : FilePath.parent? path = some up) :
    ∃ more, proper (splitLast path).1 = proper (steps up) ++ more := by
  rcases (steps_parent hup).2 with ⟨-, -, rfl⟩ | ⟨x, hx⟩
  · exact ⟨_, rfl⟩
  · rcases splitLast_cases path with hroot |
      ⟨dirs, last, idle, hsteps, hne, hidle, ⟨hdot, hdots⟩ | ⟨-, slash, hname⟩⟩
    · rw [proper_of_root (congrArg Prod.snd hroot)] at hx
      cases List.append_ne_nil_of_right_ne_nil _ (List.cons_ne_nil x []) hx.symm
    · have hall : proper (steps path) = proper dirs ++ proper [last] := by
        rw [hsteps, List.append_cons, proper_append, proper_append, proper_of_all_empty hidle,
          List.append_nil]
      rw [hall] at hx
      rw [hdots, proper_slash]
      rcases hdot with rfl | rfl
      · exact ⟨[x], (List.append_nil _).symm.trans hx⟩
      · exact ⟨[], (List.append_inj' hx rfl).1.trans (List.append_nil _).symm⟩
    · rw [hname, proper_slash, (parent_of_splitLast hname hup).1]
      exact ⟨[], (List.append_nil _).symm⟩

theorem walk_splitLast (t : Tree) (n : Nat) (dir : Key) (path : String) :
    t.walk n dir (splitLast path).1 = t.walk n dir (proper (splitLast path).1 ++ [""]) := by
  rcases splitLast_cases path with hroot |
    ⟨dirs, last, idle, -, -, -, ⟨-, hdots⟩ | ⟨-, slash, hname⟩⟩
  · rw [hroot, walk_nil]
    exact (walk_idle t n dir (Or.inl rfl) []).trans (walk_nil t n dir) |>.symm
  · rw [hdots, proper_slash, ← walk_proper]
  · rw [hname, proper_slash, ← walk_proper]

/-- Where a walk fails on its way, it fails with all that may follow. -/
theorem walk_error_append {e : OsError} {xs : List String}
    (h : t.walk n dir (xs ++ [""]) = .error e) (ys : List String) :
    t.walk n dir (xs ++ ys ++ [""]) = .error e := by
  induction n using Nat.strongRecOn generalizing dir xs with
  | ind n ihn =>
    induction xs generalizing dir with
    | nil =>
      rw [List.nil_append, walk_idle t n dir (Or.inl rfl), walk_nil] at h
      cases h
    | cons step rest ih =>
      rw [List.cons_append, List.cons_append]
      rw [List.cons_append] at h
      by_cases hi : IsIdle step
      · rw [walk_idle t n dir hi] at h ⊢
        exact ih h
      · by_cases hu : step = ".."
        · subst hu
          rw [walk_up] at h ⊢
          exact ih h
        · rw [walk_name t n dir hi hu] at h ⊢
          split at h
          · rw [if_pos ‹_›]
            exact h
          · rw [if_neg ‹_›]
            cases hg : t.get? (step :: dir) with
            | none =>
              rw [hg] at h
              exact h
            | some entry =>
              rw [hg] at h
              cases entry with
              | dir => exact ih h
              | file mode content =>
                rw [if_neg (by simp)] at h ⊢
                exact h
              | link target =>
                cases n with
                | zero => exact h
                | succ m =>
                  have hjump : t.walk m (origin dir target) (steps target ++ rest ++ [""]) =
                      .error e := (congrArg _ (List.append_assoc ..)).trans h
                  have hnext := ihn m (Nat.lt_succ_self m) hjump
                  simpa only [jump, List.append_assoc] using hnext

theorem get?_origin (hwf : t.WellFormed) (hcwd : t.get? cwd = some .dir) (path : String) :
    t.get? (origin cwd path) = some .dir := by
  rw [origin]
  split
  · exact hwf.root
  · exact hcwd

/-- In a tree where all lies in directories, a walk with a slash at its end arrives at one. -/
theorem Leads.get?_dir (h : Leads t n dir ss d) (hwf : t.WellFormed)
    (hdir : t.get? dir = some .dir) (hend : EndsIdle ss) : t.get? d = some .dir := by
  induction h with
  | nil n dir => exact hdir
  | idle _ _ ih => exact ih hdir hend.tail
  | @up n dir d rest _ ih =>
    refine ih ?_ hend.tail
    cases dir with
    | nil => exact hdir
    | cons name above => exact hwf.parents name above (by rw [hdir]; rfl)
  | down _ _ _ hg _ ih => exact ih hg hend.tail
  | file hi _ _ _ => exact absurd (hend _ rfl) hi
  | @link n dir d step target rest hi _ _ _ _ ih =>
    exact ih (get?_origin hwf hdir target) (hend.tail.append (hend.ne_nil hi) _)

theorem origin_parent (hup : FilePath.parent? path = some up) (cwd : Key) :
    origin cwd up = origin cwd path := by
  rw [origin, origin, (steps_parent hup).1]

theorem walk_splitLast_parent (hup : FilePath.parent? path = some up) :
    ∃ more, ∀ (t : Tree) (n : Nat) (dir : Key),
      t.walk n dir (splitLast path).1 = t.walk n dir (proper (steps up) ++ more ++ [""]) := by
  obtain ⟨more, hmore⟩ := proper_splitLast_parent hup
  exact ⟨more, fun t n dir => by rw [walk_splitLast, hmore]⟩

theorem pathIsDir_of_directoryAt (hwf : t.WellFormed) (hcwd : t.get? cwd = some .dir)
    (hfault : pathFault? path = none) (h : t.directoryAt cwd path = some d) :
    t.pathIsDir cwd path = true := by
  have hleads := directoryAt_eq_some_iff.1 h
  have hdir := hleads.get?_dir hwf (get?_origin hwf hcwd path) (EndsIdle.slash _)
  obtain ⟨m, hm⟩ := hleads.append
  have hwalk := hm []
  rw [List.append_nil, walk_nil] at hwalk
  exact pathIsDir_iff.2 ⟨hfault, d, walk_eq_ok_iff.1 hwalk, hdir⟩

theorem pathIsDir_parent (hwf : t.WellFormed) (hcwd : t.get? cwd = some .dir)
    (hup : FilePath.parent? path = some up) (hne : up ≠ "") {last : LastStep}
    (h : t.locateParent cwd path = .ok (d, last)) : t.pathIsDir cwd up = true := by
  obtain ⟨hfault, -, hleads⟩ := locateParent_eq_ok_iff.1 h
  obtain ⟨more, hmore⟩ := walk_splitLast_parent hup
  rw [← walk_eq_ok_iff, hmore, List.append_assoc, ← origin_parent hup, walk_eq_ok_iff] at hleads
  obtain ⟨d', hd'⟩ := hleads.to_slash (by simp)
  rw [← walk_eq_ok_iff, ← walk_proper, walk_eq_ok_iff] at hd'
  exact pathIsDir_of_directoryAt hwf hcwd (pathFault?_parent hup hne hfault)
    (directoryAt_eq_some_iff.2 hd')

theorem pathIsDir_onWay (hwf : t.WellFormed) (hcwd : t.get? cwd = some .dir) {p : String}
    (hp : FilePath.OnWay p path) (hne : p ≠ "") (h : t.pathIsDir cwd path = true) :
    t.pathIsDir cwd p = true := by
  induction hp with
  | self => exact h
  | @above up path hup hp ih =>
    obtain ⟨d, last, hloc, -⟩ := locateParent_of_pathIsDir h
    refine ih (pathIsDir_parent hwf hcwd hup ?_ hloc)
    rintro rfl
    exact hne hp.eq_of_empty

end Tree

end ServerLauncher
