import ServerLauncher.Proofs.Isolation

/-!
Where a server is installed. The name of an installed server is joined to the server directory. A
name without a slash makes a path that lies in this directory and ends with the name; the name holds
a slash exactly if the name of the artifact does, and then the path ends in some other way.
-/

namespace ServerLauncher

open ServerLauncher.Tree

namespace FilePath

/-- All pieces after the lead, idle ones as well. -/
def pieces (cs : List Char) : List (List Char) :=
  Text.splitOn '/' (cs.drop (lead cs).length)

theorem length_lead_le (cs : List Char) : (lead cs).length ≤ cs.length := by
  have h := congrArg List.length (lead_append_drop cs)
  simp only [List.length_append] at h
  omega

theorem lead_append_slash {cs : List Char} (hne : cs ≠ []) (ds : List Char) :
    lead (cs ++ '/' :: ds) = lead cs := by
  rcases lead_cases cs with ⟨rest, rfl, h⟩ | ⟨rfl, h⟩ | ⟨rest, rfl, h⟩ | ⟨hhead, h⟩
  · rw [h]
    rfl
  · rfl
  · rw [h]
    rfl
  · rw [h]
    rcases lead_cases (cs ++ '/' :: ds) with ⟨rest, heq, h'⟩ | ⟨heq, h'⟩ | ⟨rest, heq, h'⟩ | ⟨-, h'⟩
    · cases cs with
      | nil => exact absurd rfl hne
      | cons c more =>
        obtain ⟨rfl, -⟩ := List.cons.inj heq
        exact absurd rfl hhead
    · have hlength := congrArg List.length heq
      have hpos := List.length_pos_iff.2 hne
      simp only [List.length_append, List.length_cons, List.length_nil] at hlength
      omega
    · match cs, hne with
      | [c], _ =>
        obtain ⟨rfl, -⟩ := List.cons.inj heq
        cases h
      | c :: d :: more, _ =>
        obtain ⟨rfl, htail⟩ := List.cons.inj heq
        obtain ⟨rfl, -⟩ := List.cons.inj htail
        cases h
    · exact h'

theorem pieces_append_slash {cs : List Char} (hne : cs ≠ []) (ds : List Char) :
    pieces (cs ++ '/' :: ds) = pieces cs ++ Text.splitOn '/' ds := by
  rw [pieces, lead_append_slash hne, List.drop_append_of_le_length (length_lead_le cs),
    Text.splitOn_append_cons, pieces]

theorem dropIdleEnd_concat {last : List Char} (h : isIdle last = false)
    (front : List (List Char)) : dropIdleEnd (front ++ [last]) = front ++ [last] := by
  simp [dropIdleEnd, h]

/-- A name behind a path that ends with a firm piece lies in the directory of that path. -/
theorem parent?_append_name {dir name : String} {front : List (List Char)} {last : List Char}
    (hdir : pieces dir.toList = front ++ [last]) (hlast : isIdle last = false)
    (hn : IsName name) :
    parent? (dir ++ "/" ++ name) = some dir ∧ fileName? (dir ++ "/" ++ name) = some name := by
  have hne : dir.toList ≠ [] := by
    intro hnil
    rw [hnil] at hdir
    have hone : front = [] ∧ last = [] := by
      simpa [pieces, lead, Text.splitOn, List.singleton_eq_append_iff] using hdir
    rw [hone.2] at hlast
    exact absurd hlast (by decide)
  have hchars : (dir ++ "/" ++ name).toList = dir.toList ++ '/' :: name.toList := by simp
  have hidle : isIdle name.toList = false := by
    have hempty : name.toList ≠ [] := fun h => hn.ne_empty (String.ext (by simpa using h))
    have hdot : name.toList ≠ ['.'] := fun h => hn.ne_dot (String.ext (by simpa using h))
    simp [isIdle, hempty, hdot]
  have hbody : body (dir ++ "/" ++ name).toList = pieces dir.toList ++ [name.toList] := by
    have hall := pieces_append_slash hne name.toList
    rw [Text.splitOn_of_not_mem hn.slash] at hall
    rw [hchars, body]
    exact (congrArg dropIdleEnd hall).trans (dropIdleEnd_concat hidle _)
  constructor
  · have hparent : parentChars? (dir ++ "/" ++ name).toList = some dir.toList := by
      rw [parentChars?, hbody, if_neg (by simp), hchars, lead_append_slash hne,
        List.dropLast_concat, hdir, dropIdleEnd_concat hlast, ← hdir, pieces,
        Text.intercalate_splitOn, lead_append_drop]
    rw [parent?, hparent]
    simp
  · have hdots : name.toList ≠ "..".toList := fun h => hn.ne_dots (String.ext (by simpa using h))
    rw [fileName?, hbody, List.getLast?_concat]
    dsimp only
    rw [if_neg hdots, String.ofList_toList]

theorem no_slash_of_fileName? {path name : String} (h : fileName? path = some name) :
    '/' ∉ name.toList := by
  rw [fileName?] at h
  cases hlast : (body path.toList).getLast? with
  | none => simp [hlast] at h
  | some piece =>
    have hfront : body path.toList <+: pieces path.toList := dropIdleEnd_prefix _
    have hmem : piece ∈ pieces path.toList := hfront.subset (List.mem_of_getLast? hlast)
    have hname : String.ofList piece = name := by
      rw [hlast] at h
      dsimp only at h
      split at h
      · cases h
      · exact Option.some.inj h
    rw [← hname, String.toList_ofList]
    exact Text.not_mem_of_mem_splitOn hmem

end FilePath

namespace Release

/-- The last step of the server directory is its own name, behind a slash if it has a front. -/
theorem serverDir_cases (root : String) :
    (serverDir root).toList = "server".toList ∨
      ∃ base, (serverDir root).toList = base ++ '/' :: "server".toList := by
  have habs : FilePath.isAbsolute "server" = false := by decide
  rw [serverDir, FilePath.join, habs, if_neg Bool.false_ne_true]
  by_cases hempty : root.toList = []
  · rw [if_pos (Or.inl hempty), String.toList_append, hempty]
    exact Or.inl rfl
  · by_cases hend : root.toList.getLast? = some '/'
    · obtain ⟨front, hfront⟩ := List.getLast?_eq_some_iff.1 hend
      rw [if_pos (Or.inr hend), String.toList_append, hfront, List.append_assoc]
      exact Or.inr ⟨front, rfl⟩
    · rw [if_neg (by simp [hempty, hend])]
      exact Or.inr ⟨root.toList, by simp⟩

theorem last_piece_serverDir (root : String) :
    ∃ front, FilePath.pieces (serverDir root).toList = front ++ ["server".toList] := by
  rcases serverDir_cases root with h | ⟨base, h⟩
  · exact ⟨[], by rw [h]; decide⟩
  · rw [h]
    by_cases hbase : base = []
    · subst hbase
      exact ⟨[], by decide⟩
    · refine ⟨FilePath.pieces base, ?_⟩
      rw [FilePath.pieces_append_slash hbase, Text.splitOn_of_not_mem (by decide)]

theorem join_serverDir (root : String) {name : String} (hn : IsName name) :
    FilePath.join (serverDir root) name = serverDir root ++ "/" ++ name := by
  have hserver : "server".toList = ['s', 'e', 'r', 'v', 'e', 'r'] := by decide
  have hnot : ¬((serverDir root).toList = [] ∨ (serverDir root).toList.getLast? = some '/') := by
    rcases serverDir_cases root with h | ⟨base, h⟩ <;> simp [h, hserver]
  rw [FilePath.join, hn.not_isAbsolute, if_neg Bool.false_ne_true, if_neg hnot]

end Release

namespace Acquirer

variable {a : Acquirer} {t : Tree} {root path : String} {tag : Tag}

/-- A server is installed right in the server directory, under the name that is put together from
artifact, tag and extension, exactly if the name of the artifact holds no slash. -/
theorem installed_inside_iff (h : (a.destination t root tag).2 = .ok path) :
    (FilePath.parent? path = some (Release.serverDir root) ∧
        FilePath.fileName? path = some (Release.fileName a.config.artifact tag a.extension)) ↔
      '/' ∉ a.config.artifact.toList := by
  obtain ⟨-, rfl⟩ := destination_eq_ok h
  constructor
  · rintro ⟨-, hname⟩ hslash
    refine FilePath.no_slash_of_fileName? hname ?_
    simp [Release.fileName, hslash]
  · intro hartifact
    have hn := isName_fileName hartifact tag
    obtain ⟨front, hfront⟩ := Release.last_piece_serverDir root
    rw [Release.join_serverDir root hn]
    exact FilePath.parent?_append_name hfront (by decide) hn

/-- Slashes at the end of the root and a dot in front of it make no difference. -/
theorem installed_inside_dotted_root :
    (plain.destination ⟨[], []⟩ "./data//" firstTag).2 =
        .ok "./data//server/prosemd-lsp-v1" ∧
      FilePath.parent? "./data//server/prosemd-lsp-v1" = some (Release.serverDir "./data//") ∧
      FilePath.fileName? "./data//server/prosemd-lsp-v1" = some "prosemd-lsp-v1" := by
  have hdestination : (plain.destination ⟨[], []⟩ "./data//" firstTag).2 =
      .ok "./data//server/prosemd-lsp-v1" := toOption_eq_some_iff.1 (by decide +kernel)
  exact ⟨hdestination, (installed_inside_iff hdestination).2 (by decide +kernel)⟩

/-- Settings that pass the check, with an absolute path for the name of the artifact. -/
def stray : Acquirer :=
  { plain with config := { releaseUrl := "http://[::1]/", artifact := "/opt/x" } }

/-- The storage root has no part in where this server is installed. -/
theorem absolute_artifact_leaves_root :
    stray.config.validate = .ok () ∧
      (stray.destination ⟨[], []⟩ "root" firstTag).2 = .ok "/opt/x-v1" ∧
      FilePath.parent? "/opt/x-v1" = some "/opt" ∧ Release.serverDir "root" = "root/server" :=
  ⟨toOption_eq_some_iff.1 (by decide +kernel), toOption_eq_some_iff.1 (by decide +kernel),
    by decide +kernel, by decide +kernel⟩

end Acquirer

end ServerLauncher
