import Mathlib.Data.Nat.Digits.Defs
import ServerLauncher.Files.Staged
import ServerLauncher.Proofs.Apart

/-!
Files in the making. A staged file is made under a name that the tree does not use, so all that is
done to it shows in its own entry only. Removing it by its path restores the tree, unless the path
has been led elsewhere meanwhile; moving it puts its content in the place of the target.
-/

namespace ServerLauncher

namespace Tree

variable {t t' : Tree} {cwd : Key} {source target : String}

/-- A file that can be moved, and the tree when it has been moved. -/
theorem moveFile_eq_ok (h : t.moveFile cwd source target = .ok t') :
    ∃ sd sn ss d n e, t.locateParent cwd source = .ok (sd, .name sn ss) ∧
      t.locateParent cwd target = .ok (d, .name n false) ∧ t.get? (sn :: sd) = some e ∧
      n.utf8ByteSize ≤ 255 ∧ t.isDir (n :: d) = false ∧
      t' = if sn :: sd = n :: d then t
        else ((t.erase (n :: d)).erase (sn :: sd)).add (n :: d) e := by
  unfold moveFile at h
  split at h
  · cases h
  · cases h
  · rename_i sd sn ss d n slash hsource htarget
    dsimp only at h
    split at h
    · cases h
    · rename_i e he
      split at h
      · cases h
      · rename_i hsize
        split at h
        · cases h
        · rename_i hslash
          split at h
          · cases h
          · rename_i hdir
            split at h
            · cases h
            · obtain rfl : slash = false := by simpa using hslash
              refine ⟨sd, sn, ss, d, n, e, hsource, htarget, he, by omega, by simpa using hdir, ?_⟩
              split at h <;> rename_i heq
              · rw [if_pos heq, Except.ok.inj h]
              · rw [if_neg heq, Except.ok.inj h]
  · cases h

theorem moveFile_isOk_iff {sd : Key} {sn : String} {ss : Bool} {e : Entry}
    (hsource : t.locateParent cwd source = .ok (sd, .name sn ss))
    (he : t.get? (sn :: sd) = some e) :
    (∃ t', t.moveFile cwd source target = .ok t') ↔
      ∃ d n, t.locateParent cwd target = .ok (d, .name n false) ∧ n.utf8ByteSize ≤ 255 ∧
        t.isDir (n :: d) = false ∧ t.refusal? sd = none ∧ t.refusal? d = none := by
  unfold moveFile
  rw [hsource]
  cases htarget : t.locateParent cwd target with
  | error fault => simp
  | ok r =>
    obtain ⟨d, last⟩ := r
    cases last with
    | dots => simp
    | root => simp
    | name n slash =>
      simp only [he]
      constructor
      · rintro ⟨t', ht'⟩
        split at ht'
        · cases ht'
        · rename_i hsize
          split at ht'
          · cases ht'
          · rename_i hslash
            split at ht'
            · cases ht'
            · rename_i hdir
              split at ht'
              · cases ht'
              · rename_i hrefusal
                obtain ⟨hsd, hd⟩ := Option.or_eq_none_iff.1 hrefusal
                obtain rfl : slash = false := by simpa using hslash
                exact ⟨d, n, rfl, by omega, by simpa using hdir, hsd, hd⟩
      · rintro ⟨d', n', heq, hsize, hdir, hsd, hd⟩
        obtain ⟨rfl, hlast⟩ := Prod.mk.inj (Except.ok.inj heq)
        obtain ⟨rfl, rfl⟩ := LastStep.name.inj hlast
        rw [if_neg (by omega), if_neg Bool.false_ne_true, hdir, if_neg Bool.false_ne_true, hsd, hd]
        dsimp only [Option.or]
        split
        · exact ⟨_, rfl⟩
        · exact ⟨_, rfl⟩

end Tree

namespace Staged

open ServerLauncher.Tree

theorem numbered_toList (n : Nat) :
    (numbered n).toList = '.' :: 't' :: 'm' :: 'p' :: Duration.digits 10 n := by
  simp [numbered]

theorem numbered_injective {m n : Nat} (h : numbered m = numbered n) : m = n := by
  have hdigits : Duration.digits 10 m = Duration.digits 10 n := by
    have := congrArg String.toList h
    simpa [numbered_toList] using this
  have hvalue : ∀ k, Nat.ofDigitChars 10 (Duration.digits 10 k) 0 = k := by
    intro k
    simp [Duration.digits, Nat.ofDigitChars_append]
  rw [← hvalue m, hdigits, hvalue]

theorem isDigit_of_mem_digits {n : Nat} {c : Char} (h : c ∈ Duration.digits 10 n) :
    c.isDigit := by
  simp only [Duration.digits] at h
  rcases List.mem_append.1 h with h | h
  · rw [List.eq_of_mem_replicate h]
    decide
  · exact Nat.isDigit_of_mem_toDigits (by decide) (by decide) h

theorem not_mem_numbered {c : Char} (hc : c.isDigit = false) (h : c ∉ ['.', 't', 'm', 'p'])
    (n : Nat) : c ∉ (numbered n).toList := by
  rw [numbered_toList]
  intro hmem
  have hmem' : c ∈ ['.', 't', 'm', 'p'] ++ Duration.digits 10 n := hmem
  rcases List.mem_append.1 hmem' with hmem' | hmem'
  · exact h hmem'
  · simp [isDigit_of_mem_digits hmem'] at hc

theorem isName_numbered (n : Nat) : IsName (numbered n) where
  slash := not_mem_numbered (by decide) (by decide) n
  ne_empty h := by simpa [numbered_toList] using congrArg String.toList h
  ne_dot h := by simpa [numbered_toList] using congrArg String.toList h
  ne_dots h := by simpa [numbered_toList] using congrArg String.toList h

theorem utf8Size_of_isDigit {c : Char} (h : c.isDigit = true) : c.utf8Size = 1 := by
  have hval : c.val ≤ 57 := by
    simp only [Char.isDigit, Bool.and_eq_true, decide_eq_true_eq] at h
    exact h.2
  have hascii : c.val ≤ 0x7f := UInt32.le_trans hval (by decide)
  simp [Char.utf8Size, hascii]

theorem utf8ByteSize_ofList {cs : List Char} (h : ∀ c ∈ cs, c.isDigit = true) :
    (String.ofList cs).utf8ByteSize = cs.length := by
  induction cs with
  | nil => rfl
  | cons c cs ih =>
    have hc := utf8Size_of_isDigit (h c List.mem_cons_self)
    have hcs := ih fun d hd => h d (List.mem_cons_of_mem c hd)
    rw [String.ofList_cons, String.utf8ByteSize_append, String.utf8ByteSize_singleton, hc, hcs,
      List.length_cons, Nat.add_comm]

/-- The names of staged files are equally long as long as ten digits do. -/
theorem utf8ByteSize_numbered {n : Nat} (h : n < 10000000000) :
    (numbered n).utf8ByteSize = 14 := by
  have hlen : (Nat.toDigits 10 n).length ≤ 10 :=
    Nat.toDigits_length 10 n 10 (by decide) (Nat.lt_of_lt_of_eq h (by decide))
  have hlead : ".tmp".utf8ByteSize = 4 := by decide
  rw [numbered, String.utf8ByteSize_append,
    utf8ByteSize_ofList fun c hc => isDigit_of_mem_digits hc]
  simp only [Duration.digits, List.length_append, List.length_replicate, hlead]
  omega

/-- Whether the path of a staged file has a fault is decided by the length of its name. -/
theorem pathFault?_join {base : String} {m n : Nat}
    (hsize : (numbered n).utf8ByteSize = (numbered m).utf8ByteSize)
    (h : pathFault? (FilePath.join base (numbered m)) = none) :
    pathFault? (FilePath.join base (numbered n)) = none := by
  have hm := isName_numbered m
  have hn := isName_numbered n
  have hjoin : (FilePath.join base (numbered n)).utf8ByteSize =
      (FilePath.join base (numbered m)).utf8ByteSize := by
    unfold FilePath.join
    rw [hm.not_isAbsolute, hn.not_isAbsolute, if_neg Bool.false_ne_true,
      if_neg Bool.false_ne_true]
    split
    · rw [String.utf8ByteSize_append, String.utf8ByteSize_append, hsize]
    · rw [String.utf8ByteSize_append, hsize, ← String.utf8ByteSize_append]
  have hbase : '\x00' ∉ base.toList := fun hmem =>
    not_mem_of_pathFault? h ((hm.mem_join (by decide)).2 (Or.inl hmem))
  have hnul : '\x00' ∉ (FilePath.join base (numbered n)).toList := by
    rw [hn.mem_join (by decide)]
    exact not_or.2 ⟨hbase, not_mem_numbered (by decide) (by decide) n⟩
  have hne : FilePath.join base (numbered n) ≠ "" := by
    have hdot : '.' ∈ (FilePath.join base (numbered n)).toList :=
      FilePath.mem_join (by simp [numbered_toList])
    rintro heq
    simp [heq] at hdot
  unfold pathFault? at h ⊢
  rw [if_neg (by simpa using hnul), if_neg hne, hjoin]
  split at h
  · cases h
  · split at h
    · cases h
    · exact h

/-- More names than are used cannot all be used. -/
theorem exists_numbered_not_mem (used : List String) :
    ∃ name ∈ (List.range (used.length + 1)).map numbered, name ∉ used := by
  by_cases hall : (List.range (used.length + 1)).map numbered ⊆ used
  · have hnodup : ((List.range (used.length + 1)).map numbered).Nodup :=
      List.Pairwise.map numbered (fun _ _ hne h => hne (numbered_injective h)) List.nodup_range
    have hlen := hnodup.length_le_of_subset hall
    rw [List.length_map, List.length_range] at hlen
    omega
  · simpa only [List.subset_def, Classical.not_forall, exists_prop] using hall

theorem freshName_spec (t : Tree) :
    (∃ n, freshName t = numbered n ∧ ∀ m < n, numbered m ∈ t.entries.flatMap namesIn) ∧
      freshName t ∉ t.entries.flatMap namesIn := by
  generalize hused : t.entries.flatMap namesIn = used
  obtain ⟨name, hname, hnot⟩ := exists_numbered_not_mem used
  cases hfind : ((List.range (used.length + 1)).map numbered).find? (!used.contains ·) with
  | none =>
    have := List.find?_eq_none.1 hfind name hname
    simp [hnot] at this
  | some found =>
    have hfresh : freshName t = found := by
      simp only [freshName, hused, hfind, Option.getD_some]
    have hfree := List.find?_some hfind
    obtain ⟨-, n, hn, hat, hfirst⟩ := List.find?_eq_some_iff_getElem.1 hfind
    rw [List.getElem_map, List.getElem_range] at hat
    refine ⟨⟨n, hfresh.trans hat.symm, ?_⟩, by simpa [hfresh] using hfree⟩
    intro m hm
    have hused' := hfirst m hm
    rw [List.getElem_map, List.getElem_range] at hused'
    simpa using hused'

/-- Of the names that staged files commonly have one is free. -/
def HasFreeName (t : Tree) : Prop :=
  ∃ n, n < 10000000000 ∧ numbered n ∉ t.entries.flatMap namesIn

theorem hasFreeName_of_length {t : Tree}
    (h : (t.entries.flatMap namesIn).length < 10000000000) : HasFreeName t := by
  obtain ⟨name, hname, hfree⟩ := exists_numbered_not_mem (t.entries.flatMap namesIn)
  obtain ⟨n, hn, rfl⟩ := List.mem_map.1 hname
  have hlt := List.mem_range.1 hn
  exact ⟨n, by omega, hfree⟩

theorem utf8ByteSize_freshName {t : Tree} (h : HasFreeName t) :
    (freshName t).utf8ByteSize = 14 := by
  obtain ⟨n, hn, hfree⟩ := h
  obtain ⟨⟨m, hm, hfirst⟩, -⟩ := freshName_spec t
  have hle : m ≤ n := Nat.le_of_not_lt fun hlt => hfree (hfirst n hlt)
  rw [hm]
  exact utf8ByteSize_numbered (by omega)

theorem isName_freshName (t : Tree) : IsName (freshName t) := by
  obtain ⟨⟨n, hn, -⟩, -⟩ := freshName_spec t
  rw [hn]
  exact isName_numbered n

theorem unused_freshName (t : Tree) : t.Unused (freshName t) := by
  have hfree : ∀ p ∈ t.entries, freshName t ∉ namesIn p := fun p hp hmem =>
    (freshName_spec t).2 (List.mem_flatMap.2 ⟨p, hp, hmem⟩)
  constructor
  · rintro ⟨k, e⟩ hp hhead
    have hk : freshName t ∈ k := List.mem_of_mem_head? hhead
    apply hfree _ hp
    cases e <;> simp [namesIn, hk]
  · rintro ⟨k, e⟩ hp target rfl hmem
    exact hfree _ hp (by simp [namesIn, hmem])

/-- A staged file with a name of its own in a directory. -/
structure Named (st : Staged) (name : String) (dir : Key) : Prop where
  isName : IsName name
  key : st.key = name :: dir
  path : ∃ dirs, splitLast st.path = (dirs ++ [""], .name name false) ∧ name ∉ dirs

/-- The path of a staged file still leads to the directory that the file was made in. -/
def IsReachable (st : Staged) (t : Tree) (w : Workplace) : Prop :=
  ∃ last, t.locateParent w.key st.path = .ok (st.key.tail, last)

/-- A staged file that is there, while its path leads elsewhere or nowhere. -/
def IsStranded (st : Staged) (t : Tree) (w : Workplace) : Prop :=
  (t.get? st.key).isSome ∧ ¬st.IsReachable t w

variable {t u t' : Tree} {w : Workplace} {st : Staged} {name : String} {dir : Key}
  {content : Bytes}

theorem makeTemp_eq_ok {cwd k : Key} {here base : String} {m : Nat}
    (h : t.makeTemp cwd here base name m = .ok (t', k)) :
    ∃ dir last, t.locateParent cwd (FilePath.join base name) = .ok (dir, last) ∧
      t.place dir name = .ok k ∧ t' = t.add k (.file m []) := by
  unfold makeTemp at h
  dsimp only at h
  split at h
  · cases h
  · rename_i dir last hloc
    split at h
    · cases h
    · rename_i k' hplace
      split at h
      · cases h
      · obtain ⟨rfl, rfl⟩ := Prod.mk.inj (Except.ok.inj h)
        exact ⟨dir, last, hloc, hplace, rfl⟩

theorem create_made {base : String} (h : create t w base = .ok (t', st)) :
    ∃ dir last, t.locateParent w.key (FilePath.join base (freshName t)) = .ok (dir, last) ∧
      t.refusal? dir = none ∧ st = ⟨FilePath.join base (freshName t), freshName t :: dir⟩ ∧
      t' = t.add (freshName t :: dir) (.file mode []) := by
  unfold create at h
  generalize freshName t = name at h ⊢
  have hmade : ∃ k, t.makeTemp w.key w.text base name mode = .ok (t', k) ∧
      st = ⟨FilePath.join base name, k⟩ := by
    dsimp only at h
    generalize t.makeTemp w.key w.text base name mode = made at h ⊢
    cases made with
    | error e => cases h
    | ok fresh =>
      obtain ⟨rfl, rfl⟩ := Prod.mk.inj (Except.ok.inj h)
      exact ⟨_, rfl, rfl⟩
  obtain ⟨k, hmake, rfl⟩ := hmade
  obtain ⟨dir, last, hloc, hplace, rfl⟩ := makeTemp_eq_ok hmake
  obtain ⟨hopen, rfl⟩ := place_eq_ok hplace
  exact ⟨dir, last, hloc, hopen, rfl, rfl⟩

/-- In a directory that is there and takes entries, a file is staged if it could be staged under
another name of the same length. -/
theorem create_isOk {base : String} (hd : t.directoryAt w.key base = some dir)
    (hopen : t.refusal? dir = none) (ht : HasFreeName t) (hu : HasFreeName u)
    (hfault : pathFault? (FilePath.join base (freshName u)) = none) :
    ∃ made, create t w base = .ok made := by
  have hn := isName_freshName t
  have hfresh := (unused_freshName t).get?_eq_none dir
  have hsize := utf8ByteSize_freshName ht
  have hfault' : pathFault? (FilePath.join base (freshName t)) = none := by
    obtain ⟨⟨m, hm, -⟩, -⟩ := freshName_spec t
    obtain ⟨⟨n, hn, -⟩, -⟩ := freshName_spec u
    have hsize' := utf8ByteSize_freshName hu
    rw [hm] at hsize ⊢
    rw [hn] at hsize' hfault
    exact pathFault?_join (hsize.trans hsize'.symm) hfault
  unfold create
  generalize freshName t = name at hn hfresh hsize hfault' ⊢
  unfold makeTemp
  dsimp only
  rw [(locateParent_join_iff hn).2 ⟨hfault', rfl, hd⟩]
  dsimp only
  unfold place
  rw [hopen, if_neg (by omega)]
  dsimp only
  rw [hfresh]
  exact ⟨_, rfl⟩

/-- A new staged file lies beside the tree, under a name that the tree does not use. -/
theorem create_eq_ok {base : String} (h : create t w base = .ok (t', st)) :
    ∃ dir, t.directoryAt w.key base = some dir ∧ st.Named (freshName t) dir ∧
      st.IsReachable t w ∧ Beside (freshName t) dir mode [] t' t := by
  obtain ⟨dir, last, hloc, -, rfl, rfl⟩ := create_made h
  have hn := isName_freshName t
  have hunused := unused_freshName t
  generalize freshName t = name at hloc hn hunused ⊢
  obtain ⟨-, hdir⟩ := locateParent_join hn hloc
  obtain ⟨dirs, hsteps, hproper⟩ := steps_join base hn
  have havoid : name ∉ dirs := by
    intro hmem
    have hmem' : name ∈ proper (steps base) := by
      rw [← hproper]
      exact List.mem_filter.2 ⟨hmem, by simp [hn.ne_empty, hn.ne_dot]⟩
    exact hunused.not_mem_steps hn hdir (List.mem_filter.1 hmem').1
  exact ⟨dir, hdir, ⟨hn, rfl, dirs, splitLast_of_steps hn hsteps, havoid⟩, ⟨last, hloc⟩,
    .of_unused hunused ..⟩

theorem beside_write (h : Beside name dir mode content t u) (hst : st.Named name dir)
    (bytes : Bytes) : Beside name dir mode (content ++ bytes) (st.write t bytes) u := by
  rw [write, hst.key]
  exact h.append bytes

theorem Named.locateParent {dir' : Key} {last : LastStep} (hst : st.Named name dir)
    (h : t.locateParent w.key st.path = .ok (dir', last)) : last = .name name false := by
  obtain ⟨dirs, hsplit, -⟩ := hst.path
  obtain ⟨-, hlast, -⟩ := locateParent_eq_ok_iff.1 h
  rw [← hlast, hsplit]

theorem isReachable_iff (h : Beside name dir mode content t u) (hst : st.Named name dir) :
    st.IsReachable t w ↔ st.IsReachable u w := by
  obtain ⟨dirs, hsplit, havoid⟩ := hst.path
  have havoid' : name ∉ (splitLast st.path).1 := by
    rw [hsplit]
    simp [havoid, hst.isName.ne_empty]
  have hloc : u.locateParent w.key st.path = t.locateParent w.key st.path := by
    simp only [Tree.locateParent, h.walk_eq _ _ havoid']
  rw [IsReachable, IsReachable, hloc]

theorem isDir_eq_false (h : Beside name dir mode content t u) (d : Key) :
    t.isDir (name :: d) = false := by
  rw [← h.isDir_eq, isDir, h.unused.get?_eq_none d]
  rfl

/-- Removing a staged file restores the tree around it, unless the file is stranded. -/
theorem discard_eq (h : Beside name dir mode content t u) (hst : st.Named name dir) :
    (st.IsStranded t w → st.discard t w = t) ∧ (¬st.IsStranded t w → st.discard t w = u) := by
  have hgone : ¬st.IsStranded t w → ¬st.IsReachable t w → t = u := by
    intro hns hnr
    have hg : t.get? st.key = none := by
      cases hg : t.get? st.key with
      | none => rfl
      | some e => exact absurd ⟨by rw [hg]; rfl, hnr⟩ hns
    rw [← h.erased, ← hst.key, erase_of_get?_eq_none hg]
  cases hloc : t.locateParent w.key st.path with
  | error e =>
    have hsame : st.discard t w = t := by simp [discard, removeFile, hloc]
    have hnr : ¬st.IsReachable t w := by
      rintro ⟨last, hl⟩
      rw [hloc] at hl
      cases hl
    exact ⟨fun _ => hsame, fun hns => hsame.trans (hgone hns hnr)⟩
  | ok r =>
    obtain ⟨d, last⟩ := r
    obtain rfl := hst.locateParent hloc
    have herase : st.discard t w = t.erase (name :: d) := by
      simp [discard, removeFile, hloc, isDir_eq_false h d]
    have hreach : st.IsReachable t w ↔ d = dir := by
      simp [IsReachable, hloc, hst.key]
    by_cases hd : d = dir
    · subst hd
      constructor
      · intro hs
        exact absurd (hreach.2 rfl) hs.2
      intro _
      rw [herase, h.erased]
    · have hsame : st.discard t w = t := by rw [herase, h.erase_of_ne hd]
      have hnr : ¬st.IsReachable t w := mt hreach.1 hd
      exact ⟨fun _ => hsame, fun hns => hsame.trans (hgone hns hnr)⟩

/-- Moving a staged file takes it from the place it was made in and puts its content in the place
of whatever file or link the target was. -/
theorem commit_eq_ok {target : String} (h : Beside name dir mode content t u)
    (hst : st.Named name dir) (hc : st.commit t w target = .ok t') :
    ∃ d n, t.locateParent w.key target = .ok (d, .name n false) ∧ t.isDir (n :: d) = false ∧
      (n :: d = st.key → t' = t ∧ t.get? st.key = some (.file mode content)) ∧
      (n :: d ≠ st.key → t' = (u.erase (n :: d)).add (n :: d) (.file mode content)) := by
  obtain ⟨sd, sn, ss, d, n, e, hsource, htarget, he, -, hdir, rfl⟩ := moveFile_eq_ok hc
  obtain ⟨rfl, -⟩ : sn = name ∧ ss = false := by simpa using hst.locateParent hsource
  have hsd : sd = dir := by
    by_cases hne : sd = dir
    · exact hne
    · have hgone : (t.erase (sn :: sd)).get? (sn :: sd) = none := by simp [get?_erase]
      rw [h.erase_of_ne hne, he] at hgone
      cases hgone
  subst hsd
  have hfile : e = .file mode content := by
    rcases h.entry with hg | hg
    · rw [hg] at he
      cases he
    · rw [hg] at he
      exact (Option.some.inj he).symm
  subst hfile
  rw [hst.key]
  refine ⟨d, n, htarget, hdir, ?_, ?_⟩
  · intro heq
    exact ⟨if_pos heq.symm, he⟩
  · intro hne
    rw [if_neg (Ne.symm hne), ← h.erased, erase_erase]

end Staged

end ServerLauncher
