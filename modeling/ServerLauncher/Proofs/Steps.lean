import ServerLauncher.Files.Walk

/-!
The steps of path texts. A path that was joined from a directory and a plain name has the steps of
the directory and then the name, and the name is its last step. The directory that a path lies in
has the steps before the last name, up to idle ones, which lead nowhere.
-/

namespace ServerLauncher

namespace Text

theorem splitOn_of_not_mem {separator : Char} {cs : List Char} (h : separator ∉ cs) :
    splitOn separator cs = [cs] := by
  induction cs with
  | nil => rfl
  | cons c rest ih =>
    have hc : c ≠ separator := fun hc => h (by simp [hc])
    have hrest : separator ∉ rest := fun hr => h (by simp [hr])
    simp [splitOn, hc, ih hrest]

theorem splitOn_append_cons (separator : Char) (as bs : List Char) :
    splitOn separator (as ++ separator :: bs) =
      splitOn separator as ++ splitOn separator bs := by
  induction as with
  | nil => simp [splitOn]
  | cons c rest ih =>
    by_cases hc : c = separator
    · simp [splitOn, hc, ih]
    · obtain ⟨piece, pieces, h⟩ := List.exists_cons_of_ne_nil (splitOn_ne_nil separator rest)
      rw [h] at ih
      simp [splitOn, hc, ih, h]

theorem splitOn_intercalate {separator : Char} {pieces : List (List Char)}
    (hne : pieces ≠ []) (h : ∀ piece ∈ pieces, separator ∉ piece) :
    splitOn separator ([separator].intercalate pieces) = pieces := by
  induction pieces with
  | nil => exact absurd rfl hne
  | cons piece rest ih =>
    have hpiece : separator ∉ piece := h piece (by simp)
    cases rest with
    | nil => simpa [List.intercalate] using splitOn_of_not_mem hpiece
    | cons next rest =>
      have hrest := ih (by simp) (fun q hq => h q (by simp [hq]))
      rw [List.intercalate_cons_cons, List.append_assoc, List.singleton_append,
        splitOn_append_cons, splitOn_of_not_mem hpiece, hrest, List.singleton_append]

end Text

namespace FilePath

theorem dropIdleEnd_prefix (pieces : List (List Char)) : dropIdleEnd pieces <+: pieces := by
  rw [dropIdleEnd, ← List.reverse_suffix, List.reverse_reverse]
  exact List.dropWhile_suffix _

/-- The pieces that lead somewhere. -/
def firm (pieces : List (List Char)) : List (List Char) :=
  pieces.filter fun p => !isIdle p

theorem firm_dropIdleEnd (pieces : List (List Char)) :
    firm (dropIdleEnd pieces) = firm pieces := by
  have hsplit := List.takeWhile_append_dropWhile (p := isIdle) (l := pieces.reverse)
  have hidle : (pieces.reverse.takeWhile isIdle).filter (fun p => !isIdle p) = [] := by
    rw [List.filter_eq_nil_iff]
    intro p hp
    simpa using List.all_eq_true.1 (List.all_takeWhile (p := isIdle)) p hp
  have h := congrArg (List.filter fun p => !isIdle p) hsplit
  rw [List.filter_append, hidle, List.nil_append] at h
  simpa [firm, dropIdleEnd, List.filter_reverse] using congrArg List.reverse h

theorem isIdle_of_dropIdleEnd {pieces before : List (List Char)} {last : List Char}
    (h : dropIdleEnd pieces = before ++ [last]) : isIdle last = false := by
  cases hrev : pieces.reverse.dropWhile isIdle with
  | nil => simp [dropIdleEnd, hrev] at h
  | cons x rest =>
    have hx : x = last := by
      have := congrArg List.getLast? h
      simpa [dropIdleEnd, hrev] using this
    have := List.head?_dropWhile_not isIdle pieces.reverse
    simpa [hrev, hx] using this

theorem lead_cases (cs : List Char) :
    (∃ rest, cs = '/' :: rest ∧ lead cs = ['/']) ∨ (cs = ['.'] ∧ lead cs = ['.']) ∨
      (∃ rest, cs = '.' :: '/' :: rest ∧ lead cs = ['.']) ∨
      (cs.head? ≠ some '/' ∧ lead cs = []) := by
  unfold lead
  split
  · rename_i rest
    exact Or.inl ⟨rest, rfl, rfl⟩
  · exact Or.inr (Or.inl ⟨rfl, rfl⟩)
  · rename_i rest
    exact Or.inr (Or.inr (Or.inl ⟨rest, rfl, rfl⟩))
  · rename_i hslash _ _
    refine Or.inr (Or.inr (Or.inr ⟨?_, rfl⟩))
    cases cs with
    | nil => simp
    | cons c rest =>
      intro hc
      have hc' : c = '/' := by simpa using hc
      exact hslash rest (by rw [hc'])

theorem lead_append_drop (cs : List Char) : lead cs ++ cs.drop (lead cs).length = cs := by
  rcases lead_cases cs with ⟨rest, rfl, h⟩ | ⟨rfl, h⟩ | ⟨rest, rfl, h⟩ | ⟨-, h⟩ <;> simp [h]

theorem firm_splitOn_drop_lead (cs : List Char) :
    firm (Text.splitOn '/' (cs.drop (lead cs).length)) = firm (Text.splitOn '/' cs) := by
  rcases lead_cases cs with ⟨rest, rfl, h⟩ | ⟨rfl, h⟩ | ⟨rest, rfl, h⟩ | ⟨_, h⟩
  · simp [h, Text.splitOn, firm, isIdle]
  · decide
  · simp [h, Text.splitOn, firm, isIdle]
  · simp [h]

theorem firm_splitOn_intercalate {pieces : List (List Char)}
    (h : ∀ piece ∈ pieces, '/' ∉ piece) :
    firm (Text.splitOn '/' (['/'].intercalate pieces)) = firm pieces := by
  cases pieces with
  | nil => decide
  | cons piece rest => rw [Text.splitOn_intercalate (by simp) h]

theorem firm_splitOn_dot {pieces : List (List Char)} (h : ∀ piece ∈ pieces, '/' ∉ piece)
    (hhead : ∀ piece, pieces.head? = some piece → piece = []) :
    firm (Text.splitOn '/' ('.' :: ['/'].intercalate pieces)) = firm pieces := by
  cases pieces with
  | nil => decide
  | cons piece rest =>
    have hpiece : piece = [] := hhead piece rfl
    subst hpiece
    have hsplit := Text.splitOn_intercalate (by simp) h
    simp [Text.splitOn, hsplit, firm, isIdle]

/-- Pieces from the start of a path, put together again behind its lead, lead the same way. -/
theorem firm_splitOn_lead_append {cs : List Char} {pieces : List (List Char)}
    (h : pieces <+: Text.splitOn '/' (cs.drop (lead cs).length)) :
    firm (Text.splitOn '/' (lead cs ++ ['/'].intercalate pieces)) = firm pieces := by
  have hslash : ∀ piece ∈ pieces, '/' ∉ piece :=
    fun piece hp => Text.not_mem_of_mem_splitOn (h.subset hp)
  have hfirm := firm_splitOn_intercalate hslash
  rcases lead_cases cs with ⟨rest, rfl, hl⟩ | ⟨rfl, hl⟩ | ⟨rest, rfl, hl⟩ | ⟨_, hl⟩
  · simpa [hl, Text.splitOn, firm, isIdle] using hfirm
  · rw [hl]
    apply firm_splitOn_dot hslash
    intro piece hp
    simpa [hl, Text.splitOn] using h.subset (List.mem_of_mem_head? hp)
  · rw [hl]
    apply firm_splitOn_dot hslash
    intro piece hp
    cases pieces with
    | nil => simp at hp
    | cons first more =>
      have hfirst := h
      simp [hl, Text.splitOn] at hfirst
      simpa [hfirst.1] using hp.symm
  · simpa [hl] using hfirm

theorem head?_lead_append {cs : List Char} {pieces : List (List Char)}
    (h : pieces <+: Text.splitOn '/' (cs.drop (lead cs).length)) :
    (lead cs ++ ['/'].intercalate pieces).head? = some '/' ↔ cs.head? = some '/' := by
  rcases lead_cases cs with ⟨rest, rfl, hl⟩ | ⟨rfl, hl⟩ | ⟨rest, rfl, hl⟩ | ⟨hc, hl⟩
  · simp [hl]
  · simp [hl]
  · simp [hl]
  · simp only [hl, List.nil_append, hc, iff_false]
    intro hx
    obtain ⟨rest, hrest⟩ := List.head?_eq_some_iff.1 hx
    rw [hl] at h
    cases pieces with
    | nil => simp at hx
    | cons first more =>
      have hslash : ∀ piece ∈ first :: more, '/' ∉ piece :=
        fun piece hp => Text.not_mem_of_mem_splitOn (h.subset hp)
      have hsplit := Text.splitOn_intercalate (by simp) hslash
      rw [hrest] at hsplit
      obtain ⟨next, others, hnext⟩ := List.exists_cons_of_ne_nil (Text.splitOn_ne_nil '/' rest)
      simp only [Text.splitOn, hnext, if_true] at hsplit
      rw [← hsplit] at h
      cases cs with
      | nil => simp [Text.splitOn] at h
      | cons c tail =>
        have hne : c ≠ '/' := fun he => hc (by simp [he])
        obtain ⟨p, ps, hp⟩ := List.exists_cons_of_ne_nil (Text.splitOn_ne_nil '/' tail)
        simp [Text.splitOn, hne, hp] at h

/-- A path lies in what the pieces before the last make up; a dot lies in the empty path. -/
theorem parentChars?_cases {cs up : List Char} (h : parentChars? cs = some up) :
    (lead cs = ['.'] ∧ body cs = [] ∧ up = []) ∨
      ∃ before last, body cs = before ++ [last] ∧
        up = lead cs ++ ['/'].intercalate (dropIdleEnd before) := by
  rcases List.eq_nil_or_concat (body cs) with hnil | ⟨before, last, hbody⟩
  · rw [parentChars?, hnil, if_pos (by rfl)] at h
    split at h
    · exact Or.inl ⟨‹_›, hnil, (Option.some.inj h).symm⟩
    · cases h
  · rw [List.concat_eq_append] at hbody
    rw [parentChars?, hbody, if_neg (by simp), List.dropLast_concat] at h
    exact Or.inr ⟨before, last, hbody, (Option.some.inj h).symm⟩

theorem exists_piece {cs : List Char} {c : Char} (hc : c ∈ cs) (hslash : c ≠ '/') :
    ∃ piece ∈ Text.splitOn '/' cs, c ∈ piece := by
  rw [← Text.intercalate_splitOn '/' cs] at hc
  generalize Text.splitOn '/' cs = pieces at hc ⊢
  induction pieces with
  | nil => simp at hc
  | cons piece rest ih =>
    cases rest with
    | nil => exact ⟨piece, by simp, by simpa using hc⟩
    | cons next rest =>
      rw [List.intercalate_cons_cons] at hc
      rcases List.mem_append.1 hc with hc | hc
      · rcases List.mem_append.1 hc with hc | hc
        · exact ⟨piece, by simp, hc⟩
        · exact absurd (List.mem_singleton.1 hc) hslash
      · obtain ⟨p, hp, hcp⟩ := ih hc
        exact ⟨p, List.mem_cons_of_mem _ hp, hcp⟩

theorem exists_parent {path : String} {c : Char} (hc : c ∈ path.toList) (hslash : c ≠ '/')
    (hdot : c ≠ '.') : ∃ dir, parent? path = some dir := by
  obtain ⟨piece, hmem, hcp⟩ := exists_piece hc hslash
  have hne : piece ≠ [] := List.ne_nil_of_mem hcp
  have hdots : piece ≠ ['.'] := fun h => hdot (List.mem_singleton.1 (h ▸ hcp))
  have hfirm : piece ∈ firm (Text.splitOn '/' path.toList) :=
    List.mem_filter.2 ⟨hmem, by simp [isIdle, hne, hdots]⟩
  rw [← firm_splitOn_drop_lead, ← firm_dropIdleEnd] at hfirm
  have hbody : body path.toList ≠ [] := List.ne_nil_of_mem (List.mem_filter.1 hfirm).1
  simp [parent?, parentChars?, hbody]

theorem mem_join {base name : String} {c : Char} (hc : c ∈ name.toList) :
    c ∈ (join base name).toList := by
  unfold join
  split
  · exact hc
  · split <;> simp [hc]

end FilePath

namespace Tree

/-- A text that can stand between two slashes and leads to an entry of that name. -/
structure IsName (name : String) : Prop where
  slash : '/' ∉ name.toList
  ne_empty : name ≠ ""
  ne_dot : name ≠ "."
  ne_dots : name ≠ ".."

theorem IsName.not_isAbsolute {name : String} (hn : IsName name) :
    FilePath.isAbsolute name = false := by
  cases h : name.toList with
  | nil => simp [FilePath.isAbsolute, h]
  | cons c rest =>
    have hc : c ≠ '/' := fun hc => hn.slash (by simp [h, hc])
    simp [FilePath.isAbsolute, h, hc]

theorem IsName.mem_join {base name : String} {c : Char} (hn : IsName name) (hc : c ≠ '/') :
    c ∈ (FilePath.join base name).toList ↔ c ∈ base.toList ∨ c ∈ name.toList := by
  unfold FilePath.join
  rw [hn.not_isAbsolute, if_neg (by simp)]
  split
  · simp
  · simp [hc]

theorem steps_of_no_slash {name : String} (h : '/' ∉ name.toList) : steps name = [name] := by
  simp [steps, Text.splitOn_of_not_mem h]

theorem steps_append_slash (a b : String) : steps (a ++ "/" ++ b) = steps a ++ steps b := by
  have h : (a ++ "/" ++ b).toList = a.toList ++ '/' :: b.toList := by simp
  simp only [steps, h, Text.splitOn_append_cons, List.map_append]

theorem no_slash_of_mem_steps {path step : String} (h : step ∈ steps path) :
    '/' ∉ step.toList := by
  obtain ⟨piece, hpiece, rfl⟩ := List.mem_map.1 h
  rw [String.toList_ofList]
  exact Text.not_mem_of_mem_splitOn hpiece

/-- The steps that lead somewhere. -/
def proper (ss : List String) : List String :=
  ss.filter fun s => s ≠ "" ∧ s ≠ "."

theorem proper_append (as bs : List String) : proper (as ++ bs) = proper as ++ proper bs :=
  List.filter_append ..

theorem splitLast_of_steps {path name : String} {dirs : List String}
    (hn : IsName name) (h : steps path = dirs ++ [name]) :
    splitLast path = (dirs ++ [""], .name name false) := by
  have hkept : ((dirs ++ [name]).reverse.dropWhile (· == "")).reverse = dirs ++ [name] := by
    simp [hn.ne_empty]
  simp only [splitLast, h, hkept]
  simp [hn.ne_dot, hn.ne_dots]

/-- The last step of a joined path is the name, and the steps before it are those of the base. -/
theorem steps_join (base : String) {name : String} (hn : IsName name) :
    ∃ dirs, steps (FilePath.join base name) = dirs ++ [name] ∧
      proper dirs = proper (steps base) := by
  have habs := hn.not_isAbsolute
  have hname : steps name = [name] := steps_of_no_slash hn.slash
  by_cases hempty : base.toList = []
  · have hbase : base = "" := String.ext (by simpa using hempty)
    refine ⟨[], ?_, ?_⟩
    · simp [FilePath.join, habs, hbase, hname]
    · subst hbase
      rfl
  · by_cases hend : base.toList.getLast? = some '/'
    · obtain ⟨front, hfront⟩ := List.getLast?_eq_some_iff.1 hend
      have hbase : base = String.ofList front ++ "/" ++ "" := String.ext (by simp [hfront])
      have hjoin : FilePath.join base name = String.ofList front ++ "/" ++ name := by
        simp [FilePath.join, habs, hbase]
      refine ⟨steps (String.ofList front), ?_, ?_⟩
      · rw [hjoin, steps_append_slash, hname]
      · rw [hbase, steps_append_slash, proper_append]
        simp [proper, steps_of_no_slash]
    · have hjoin : FilePath.join base name = base ++ "/" ++ name := by
        simp [FilePath.join, habs, hempty, hend]
      exact ⟨steps base, by rw [hjoin, steps_append_slash, hname], rfl⟩

theorem origin_join {base name : String} (hn : IsName name) (cwd : Key) :
    origin cwd (FilePath.join base name) = origin cwd base := by
  have habs := hn.not_isAbsolute
  have h : FilePath.isAbsolute (FilePath.join base name) = FilePath.isAbsolute base := by
    cases hb : base.toList with
    | nil =>
      have hbase : base = "" := String.ext (by simpa using hb)
      subst hbase
      simp only [FilePath.join, habs, Bool.false_eq_true, if_false]
      simpa [FilePath.isAbsolute] using habs
    | cons c rest =>
      simp only [FilePath.join, habs, Bool.false_eq_true, if_false]
      split <;> simp [FilePath.isAbsolute, hb]
  simp [origin, h]

theorem proper_map_ofList (pieces : List (List Char)) :
    proper (pieces.map String.ofList) = (FilePath.firm pieces).map String.ofList := by
  have hidle : ∀ p : List Char, (decide (String.ofList p ≠ "" ∧ String.ofList p ≠ ".")) =
      !FilePath.isIdle p := by
    intro p
    have h1 : String.ofList p = "" ↔ p = [] := by
      rw [← String.ofList_nil, String.ofList_inj]
    have h2 : String.ofList p = "." ↔ p = ['.'] := by
      rw [show "." = String.ofList ['.'] from rfl, String.ofList_inj]
    by_cases hp : p = [] <;> by_cases hd : p = ['.'] <;> simp [FilePath.isIdle, h1, h2, hp, hd]
  simp only [proper, FilePath.firm, List.filter_map]
  congr 1
  exact List.filter_congr fun p _ => hidle p

/-- A path has no steps that count, or a last one with slashes behind it. -/
theorem splitLast_cases (path : String) :
    splitLast path = ([], .root) ∨
      ∃ dirs last idle, steps path = dirs ++ last :: idle ∧ last ≠ "" ∧ (∀ s ∈ idle, s = "") ∧
        ((last = "." ∨ last = "..") ∧ splitLast path = (dirs ++ [""], .dots) ∨
          ¬(last = "." ∨ last = "..") ∧
            ∃ slash, splitLast path = (dirs ++ [""], .name last slash)) := by
  have hsplit := List.takeWhile_append_dropWhile (p := (· == "")) (l := (steps path).reverse)
  have hidle : ∀ s ∈ ((steps path).reverse.takeWhile (· == "")).reverse, s = "" := by
    intro s hs
    have := List.all_eq_true.1 (List.all_takeWhile (p := (· == ""))) s (List.mem_reverse.1 hs)
    simpa using this
  have hnot := List.head?_dropWhile_not (· == "") (steps path).reverse
  generalize hkept : ((steps path).reverse.dropWhile (· == "")).reverse = kept
  have hall : steps path = kept ++ ((steps path).reverse.takeWhile (· == "")).reverse := by
    rw [← hkept, ← List.reverse_append, hsplit, List.reverse_reverse]
  simp only [splitLast, hkept]
  rcases List.eq_nil_or_concat kept with rfl | ⟨dirs, last, hlast⟩
  · exact Or.inl rfl
  · rw [List.concat_eq_append] at hlast
    subst hlast
    have hlast_ne : last ≠ "" := by
      intro he
      have hhead : ((steps path).reverse.dropWhile (· == "")).head? = some last := by
        rw [← List.getLast?_reverse, hkept, List.getLast?_append, List.getLast?_singleton]
        rfl
      rw [hhead] at hnot
      simp [he] at hnot
    refine Or.inr ⟨dirs, last, _, ?_, hlast_ne, hidle, ?_⟩
    · rw [List.append_cons]
      exact hall
    · simp only [List.getLast?_append, List.getLast?_singleton, Option.some_or,
        List.dropLast_concat]
      by_cases hdots : last = "." ∨ last = ".."
      · exact Or.inl ⟨hdots, if_pos hdots⟩
      · exact Or.inr ⟨hdots, _, if_neg hdots⟩

theorem proper_of_all_empty {ss : List String} (h : ∀ s ∈ ss, s = "") : proper ss = [] := by
  rw [proper, List.filter_eq_nil_iff]
  intro s hs
  simp [h s hs]

/-- A last step that is a name ends the steps that lead somewhere. -/
theorem proper_of_splitLast {path name : String} {ds : List String} {slash : Bool}
    (h : splitLast path = (ds, .name name slash)) :
    ∃ dirs, ds = dirs ++ [""] ∧ IsName name ∧ proper (steps path) = proper dirs ++ [name] := by
  rcases splitLast_cases path with hroot |
    ⟨dirs, last, idle, hsteps, hne, hidle, ⟨-, hdots⟩ | ⟨hnot, slash', hname⟩⟩
  · rw [hroot] at h
    cases h
  · rw [hdots] at h
    cases h
  · rw [hname] at h
    obtain ⟨rfl, hlast⟩ := Prod.mk.inj h
    obtain ⟨rfl, rfl⟩ := LastStep.name.inj hlast
    have hmem : last ∈ steps path := by
      rw [hsteps]
      simp
    have hdot : last ≠ "." := fun he => hnot (Or.inl he)
    refine ⟨dirs, rfl, ⟨no_slash_of_mem_steps hmem, hne, hdot, fun he => hnot (Or.inr he)⟩, ?_⟩
    rw [hsteps, List.append_cons, proper_append, proper_append, proper_of_all_empty hidle]
    simp [proper, hne, hdot]

/-- What a path lies in has the steps before the last one that leads somewhere. A path without
such a step lies in the empty path. -/
theorem steps_parent {path up : String} (h : FilePath.parent? path = some up) :
    FilePath.isAbsolute up = FilePath.isAbsolute path ∧
      (path ≠ "" ∧ proper (steps path) = [] ∧ up = "" ∨
        ∃ last, proper (steps path) = proper (steps up) ++ [last]) := by
  obtain ⟨cs, hcs, rfl⟩ := Option.map_eq_some_iff.1 h
  rw [steps, steps, proper_map_ofList, proper_map_ofList, String.toList_ofList,
    ← FilePath.firm_splitOn_drop_lead path.toList, ← FilePath.firm_dropIdleEnd]
  change _ ∧ (_ ∧ List.map _ (FilePath.firm (FilePath.body path.toList)) = [] ∧ _ ∨
    ∃ last, List.map _ (FilePath.firm (FilePath.body path.toList)) = _)
  rcases FilePath.parentChars?_cases hcs with ⟨hlead, hbody, rfl⟩ | ⟨before, last, hbody, rfl⟩
  · have hdot : path.toList.head? = some '.' := by
      rcases FilePath.lead_cases path.toList with ⟨rest, -, hl⟩ | ⟨hp, -⟩ | ⟨rest, hp, -⟩ | ⟨-, hl⟩
      · rw [hlead] at hl
        cases hl
      · rw [hp]
        rfl
      · rw [hp]
        rfl
      · rw [hlead] at hl
        cases hl
    constructor
    · simp [FilePath.isAbsolute, hdot]
    · rw [hbody]
      refine Or.inl ⟨?_, rfl, rfl⟩
      rintro rfl
      cases hdot
  · have hpre : FilePath.dropIdleEnd before <+:
        Text.splitOn '/' (path.toList.drop (FilePath.lead path.toList).length) :=
      (FilePath.dropIdleEnd_prefix before).trans
        ((List.prefix_append before [last]).trans (hbody ▸ FilePath.dropIdleEnd_prefix _))
    have hlast : FilePath.firm [last] = [last] := by
      simp [FilePath.firm, FilePath.isIdle_of_dropIdleEnd hbody]
    constructor
    · have hhead := FilePath.head?_lead_append hpre
      simp only [FilePath.isAbsolute, String.toList_ofList]
      rw [Bool.eq_iff_iff]
      simpa using hhead
    · refine Or.inr ⟨String.ofList last, ?_⟩
      rw [hbody, FilePath.firm_splitOn_lead_append hpre, FilePath.firm_dropIdleEnd]
      simp only [FilePath.firm, List.filter_append, List.map_append] at hlast ⊢
      rw [hlast]
      rfl

theorem parent_of_splitLast {path name dir : String} {dirs : List String} {slash : Bool}
    (h : splitLast path = (dirs ++ [""], .name name slash))
    (hp : FilePath.parent? path = some dir) :
    proper (steps dir) = proper dirs ∧ FilePath.isAbsolute dir = FilePath.isAbsolute path := by
  obtain ⟨dirs', hdirs, -, hproper⟩ := proper_of_splitLast h
  obtain rfl : dirs = dirs' := by simpa using hdirs
  obtain ⟨habs, ⟨-, hnil, -⟩ | ⟨last, hlast⟩⟩ := steps_parent hp
  · rw [hnil] at hproper
    simp at hproper
  · exact ⟨(List.append_inj' (hlast.symm.trans hproper) rfl).1, habs⟩

theorem mem_steps_of_splitLast {path s : String} (h : s ∈ (splitLast path).1) :
    s = "" ∨ s ∈ steps path := by
  have hkept : ∀ x ∈ ((steps path).reverse.dropWhile (· == "")).reverse, x ∈ steps path :=
    fun x hx => List.mem_reverse.1 ((List.dropWhile_sublist _).subset (List.mem_reverse.1 hx))
  simp only [splitLast] at h
  generalize ((steps path).reverse.dropWhile (· == "")).reverse = kept at h hkept
  have hdirs : ∀ x ∈ kept.dropLast ++ [""], x = "" ∨ x ∈ steps path := by
    intro x hx
    rcases List.mem_append.1 hx with hx | hx
    · exact Or.inr (hkept x (List.dropLast_subset _ hx))
    · exact Or.inl (List.mem_singleton.1 hx)
  split at h
  · simp at h
  · split at h <;> exact hdirs s h

theorem IsName.of_splitLast {path name : String} {ds : List String} {slash : Bool}
    (h : splitLast path = (ds, .name name slash)) : IsName name ∧ name ∈ steps path := by
  obtain ⟨dirs, -, hn, hproper⟩ := proper_of_splitLast h
  have hmem : name ∈ proper (steps path) := by simp [hproper]
  exact ⟨hn, (List.mem_filter.1 hmem).1⟩

theorem proper_parent_subset {path up : String} (hp : FilePath.parent? path = some up) :
    proper (steps up) ⊆ proper (steps path) := by
  rcases (steps_parent hp).2 with ⟨-, -, rfl⟩ | ⟨last, hlast⟩
  · exact List.nil_subset _
  · rw [hlast]
    exact List.subset_append_left _ _

theorem IsName.not_mem_parent {name path up : String} (hn : IsName name)
    (hup : FilePath.parent? path = some up) (hp : name ∉ steps path) : name ∉ steps up := by
  intro hmem
  have hproper : name ∈ proper (steps up) :=
    List.mem_filter.2 ⟨hmem, by simp [hn.ne_empty, hn.ne_dot]⟩
  exact hp (List.mem_filter.1 (proper_parent_subset hup hproper)).1

end Tree

end ServerLauncher
