import Mathlib.Data.List.DropRight
import ServerLauncher.Proofs.Addresses
import ServerLauncher.Proofs.Isolation
import ServerLauncher.Proofs.PathSteps
import ServerLauncher.Url.Address

/-!
The address that a release is asked for. Base, tag and asset are put together as texts, and the
result is read as an address. Without a query and a fragment the steps of the base come first, then
the tag, then the asset; a tag of a single dot is no step. A query or a fragment takes up both.
-/

namespace ServerLauncher

section Ends

variable {α : Type} {p : α → Bool} {a : α}

/-- What is dropped from the end is a run of the one item that is dropped. -/
theorem exists_eq_rdropWhile_append (hp : ∀ x, p x = true → x = a) (l : List α) :
    ∃ n, l = l.rdropWhile p ++ List.replicate n a ∧
      ((∀ x, l.getLast? = some x → p x = false) → n = 0) := by
  refine ⟨(l.rtakeWhile p).length, ?_, ?_⟩
  · have hsame : l.rtakeWhile p = List.replicate (l.rtakeWhile p).length a :=
      List.eq_replicate_of_mem fun x hx => hp x (List.mem_rtakeWhile_imp hx)
    rw [← hsame, List.rdropWhile_append_rtakeWhile]
  · intro hlast
    rw [List.length_eq_zero_iff, List.rtakeWhile_eq_nil_iff]
    intro hne
    simp [hlast _ (List.getLast?_eq_some_getLast hne)]

theorem rdropWhile_append_replicate (ha : p a = true) (l : List α) (n : Nat) :
    (l ++ List.replicate n a).rdropWhile p = l.rdropWhile p := by
  induction n with
  | zero => simp
  | succ n ih =>
    rw [List.replicate_succ', ← List.append_assoc, List.rdropWhile_concat_pos _ _ _ ha, ih]

/-- Behind a list without the item at its end, two of them end a run only if it is longer. -/
theorem pair_suffix_iff {l : List α} (hl : l.getLast? ≠ some a) (n : Nat) :
    [a, a] <:+ l ++ List.replicate n a ++ [a] ↔ n ≠ 0 := by
  constructor
  · rintro ⟨front, hfront⟩ rfl
    have hcons : front ++ [a] ++ [a] = l ++ [a] := by simpa using hfront
    have hfront' : front ++ [a] = l := (List.append_inj' hcons rfl).1
    exact hl (by rw [← hfront', List.getLast?_concat])
  · intro hn
    obtain ⟨m, rfl⟩ := Nat.exists_eq_succ_of_ne_zero hn
    exact ⟨l ++ List.replicate m a, by simp [List.replicate_succ']⟩

theorem getLast?_rdropWhile_ne (ha : p a = true) (l : List α) :
    (l.rdropWhile p).getLast? ≠ some a := by
  intro hlast
  have hne : l.rdropWhile p ≠ [] := fun hnil => by simp [hnil] at hlast
  rw [List.getLast?_eq_some_getLast hne, Option.some.injEq] at hlast
  exact List.rdropWhile_last_not p l hne (hlast ▸ ha)

theorem append_replicate_append_iff (l xs : List α) (n : Nat) :
    l ++ List.replicate n a ++ xs = l ++ xs ↔ n = 0 := by
  constructor
  · intro h
    have hlength := congrArg List.length h
    simp only [List.length_append, List.length_replicate] at hlength
    omega
  · rintro rfl
    simp

end Ends

namespace Url

/-- The characters that never need an escape. -/
def isUnreserved (c : Char) : Bool :=
  c.isAlphanum || c == '-' || c == '.' || c == '_' || c == '~'

/-- A character that means nothing but itself inside a path. -/
structure IsInner (c : Char) : Prop where
  slash : isSlash .special c = false
  tail : isTail c = false
  kept : isKept c = true
  edge : isEdge c = false

theorem toNat_lt_of_unreserved {c : Char} (h : isUnreserved c = true) : c.toNat < 128 := by
  simp only [isUnreserved, Bool.or_eq_true, beq_iff_eq] at h
  rcases h with (((h | rfl) | rfl) | rfl) | rfl
  · rcases (Bool.or_eq_true_iff.1 h).imp_left Bool.or_eq_true_iff.1 with (hupper | hlower) | hdigit
    · have hrange : c.val ≥ 'A'.val ∧ c.val ≤ 'Z'.val := of_decide_eq_true hupper
      exact lt_of_le_of_lt hrange.2 (by decide)
    · have hrange : (decide (c.val ≥ 'a'.val) && decide (c.val ≤ 'z'.val)) = true := hlower
      exact lt_of_le_of_lt (of_decide_eq_true (Bool.and_eq_true_iff.1 hrange).2) (by decide)
    · exact lt_of_le_of_lt (Char.isDigit_iff_toNat.1 hdigit).2 (by decide)
  all_goals decide

theorem of_unreserved {p : Char → Bool}
    (h : ∀ n < 128, isUnreserved (Char.ofNat n) = true → p (Char.ofNat n) = true) {c : Char}
    (hc : isUnreserved c = true) : p c = true := by
  have hchar := h c.toNat (toNat_lt_of_unreserved hc)
  rw [Char.ofNat_toNat] at hchar
  exact hchar hc

theorem IsInner.of_unreserved {c : Char} (h : isUnreserved c = true) : IsInner c where
  slash := by simpa using Url.of_unreserved (p := fun c => !isSlash .special c) (by decide) h
  tail := by simpa using Url.of_unreserved (p := fun c => !isTail c) (by decide) h
  kept := Url.of_unreserved (by decide) h
  edge := by simpa using Url.of_unreserved (p := fun c => !isEdge c) (by decide) h

theorem encode_unreserved {cs : List Char} (h : ∀ c ∈ cs, isUnreserved c = true) :
    Percent.encode Percent.inPathSet cs = cs :=
  Percent.encode_of_none fun c hc => by
    simpa using of_unreserved (p := fun c => !Percent.inPathSet c) (by decide) (h c hc)

theorem chars_append_replicate (steps : List (List Char)) (n : Nat) :
    (Path.segments (steps ++ List.replicate n [])).chars =
      (Path.segments steps).chars ++ List.replicate n '/' := by
  simp [Path.chars, List.flatMap_replicate]

end Url

namespace Tag

theorem isInner (tag : Tag) {c : Char} (h : c ∈ tag.text.toList) : Url.IsInner c := by
  obtain ⟨hseparator, -, haddress⟩ := tag.passes.2.2 c h
  simp only [isAddressBreaker, Bool.or_eq_false_iff] at haddress
  obtain ⟨⟨⟨⟨hblank, hcontrol⟩, hquery⟩, hfragment⟩, -⟩ := haddress
  refine ⟨?_, ?_, ?_, ?_⟩
  · simp only [isSeparator, Bool.or_eq_false_iff] at hseparator
    simp [Url.isSlash, hseparator.1, hseparator.2]
  · simp [Url.isTail, hquery, hfragment]
  · have hne : ∀ d, Text.isBlank d = true → (c != d) = true := by
      rintro d hd
      simpa using fun heq : c = d => Bool.false_ne_true ((heq ▸ hblank).symm.trans hd)
    simp only [Url.isKept, hne '\t' (by decide), hne '\n' (by decide), hne '\r' (by decide),
      Bool.and_self]
  · rw [Bool.eq_false_iff]
    intro hedge
    simp only [Url.isEdge, decide_eq_true_eq] at hedge
    simp only [Text.isBlank, Text.isControl, Bool.or_eq_false_iff, Bool.and_eq_false_iff,
      decide_eq_false_iff_not, beq_eq_false_iff_ne] at hblank hcontrol
    omega

theorem no_percent (tag : Tag) : '%' ∉ tag.text.toList := fun h =>
  absurd ((tag.passes.2.2 _ h).2.2) (by decide)

theorem not_doubleDot (tag : Tag) : Url.isDoubleDot tag.text.toList = false := by
  rw [Bool.eq_false_iff]
  intro h
  have hdots := tag.passes.2.1
  rw [Url.eq_of_isDoubleDot tag.no_percent h] at hdots
  cases hdots

theorem isSingleDot_iff (tag : Tag) : Url.isSingleDot tag.text.toList = true ↔ tag.text = "." := by
  constructor
  · intro h
    exact String.toList_inj.1 (Url.eq_of_isSingleDot tag.no_percent h)
  · intro h
    rw [h]
    decide

end Tag

namespace Release

/-- The last step of a base is a name: it is not empty and no dot step. Slashes at the end of the
base are left out, and so is what is left out of every address. -/
def endsWithName (base : String) : Bool :=
  (Url.splitSteps .special (Url.lasting (trimSlashes base).toList)).getLast?.all fun step =>
    !step.isEmpty && !Url.isDoubleDot step && !Url.isSingleDot step

theorem toList_trimSlashes (base : String) :
    (trimSlashes base).toList = base.toList.rdropWhile (· == '/') :=
  String.toList_ofList

theorem trimSlashes_append (base : String) :
    ∃ n, base.toList = (trimSlashes base).toList ++ List.replicate n '/' := by
  obtain ⟨n, hn, -⟩ :=
    exists_eq_rdropWhile_append (p := (· == '/')) (a := '/') (by simp) base.toList
  exact ⟨n, by rwa [toList_trimSlashes]⟩

theorem toList_url (base artifact : String) (tag : Tag) (b : Build) :
    (url base artifact tag b).toList =
      (trimSlashes base).toList ++
        '/' :: (tag.text.toList ++ '/' :: (assetName artifact b).toList) := by
  simp [url]

theorem assetName_unreserved {artifact : String} {os : HostOs} {b : Build}
    (hartifact : ∀ c ∈ artifact.toList, Url.isUnreserved c = true) (hbuild : os.build? = some b) :
    ∀ c ∈ (assetName artifact b).toList, Url.isUnreserved c = true := by
  have hrest : ∀ c ∈ ("-" ++ b.variant.name ++ b.extension).toList, Url.isUnreserved c = true :=
    List.all_eq_true.1 (by cases os <;> cases hbuild <;> decide)
  intro c hc
  have hchars : (assetName artifact b).toList =
      artifact.toList ++ ("-" ++ b.variant.name ++ b.extension).toList := by simp [assetName]
  rw [hchars] at hc
  exact (List.mem_append.1 hc).elim (hartifact c) (hrest c)

theorem hyphen_mem_assetName (artifact : String) (b : Build) :
    '-' ∈ (assetName artifact b).toList := by
  simp [assetName]

def suffix (artifact : String) (tag : Tag) (b : Build) : List Char :=
  '/' :: (tag.text.toList ++ '/' :: (assetName artifact b).toList)

theorem not_isTail_of_slash (n : Nat) : ∀ c ∈ List.replicate n '/', Url.isTail c = false :=
  fun _ hc => List.eq_of_mem_replicate hc ▸ rfl

theorem enclosed_of_endsWithName {base : String} (h : endsWithName base = true)
    {path : List Char} (hpath : path <:+ Url.lasting (trimSlashes base).toList)
    (hhead : ∀ c, path.head? = some c → Url.isSlash .special c = true) :
    Url.enclosed path = [] ∨
      ∃ front step, Url.enclosed path = front ++ [step] ∧ step ≠ [] ∧ '/' ∉ step := by
  obtain ⟨lead, hlead⟩ := hpath
  cases path with
  | nil => exact Or.inl rfl
  | cons c rest =>
    rcases List.eq_nil_or_concat' (Url.splitSteps .special rest) with hnil | ⟨front, step, hsteps⟩
    · exact absurd hnil (Url.splitSteps_ne_nil rest)
    · have hlast : (Url.splitSteps .special (Url.lasting (trimSlashes base).toList)).getLast? =
          some step := by
        rw [← hlead, Url.splitSteps_append_cons (hhead c rfl), hsteps, ← List.append_assoc,
          List.getLast?_concat]
      rw [endsWithName, hlast] at h
      simp only [Option.all_some, Bool.and_eq_true, Bool.not_eq_true',
        List.isEmpty_eq_false_iff] at h
      obtain ⟨⟨hne, hdouble⟩, hsingle⟩ := h
      have hslash : '/' ∉ step := fun hmem => by
        have hlast' : step ∈ Url.splitSteps .special rest :=
          hsteps ▸ List.mem_append_right front List.mem_cons_self
        cases Url.not_slash_of_mem_splitSteps hlast' _ hmem
      refine Or.inr ⟨(Url.descend [] front).reverse,
        Url.Percent.encode Url.Percent.inPathSet step, ?_, Url.Percent.encode_ne_nil hne,
        Url.Percent.no_slash_encode hslash⟩
      rw [Url.enclosed, hsteps, Url.descend_concat hdouble hsingle, List.reverse_cons]

section Reading

variable {base artifact : String} {tag : Tag} {os : HostOs} {b : Build} {u : Url}
  (hartifact : ∀ c ∈ artifact.toList, Url.isUnreserved c = true) (hbuild : os.build? = some b)

include hartifact hbuild

theorem mem_suffix {c : Char} (h : c ∈ suffix artifact tag b) : c = '/' ∨ Url.IsInner c := by
  rcases List.mem_cons.1 h with rfl | h
  · exact Or.inl rfl
  rcases List.mem_append.1 h with h | h
  · exact Or.inr (tag.isInner h)
  rcases List.mem_cons.1 h with rfl | h
  · exact Or.inl rfl
  · exact Or.inr (.of_unreserved (assetName_unreserved hartifact hbuild c h))

theorem isKept_of_mem_suffix {c : Char} (h : c ∈ suffix artifact tag b) : Url.isKept c = true := by
  rcases mem_suffix hartifact hbuild h with rfl | hinner
  · rfl
  · exact hinner.kept

theorem not_isTail_of_mem_suffix {c : Char} (h : c ∈ suffix artifact tag b) :
    Url.isTail c = false := by
  rcases mem_suffix hartifact hbuild h with rfl | hinner
  · rfl
  · exact hinner.tail

theorem not_isEdge_of_getLast?_suffix (cs : List Char) {c : Char}
    (h : (cs ++ suffix artifact tag b).getLast? = some c) : Url.isEdge c = false := by
  have hne : (assetName artifact b).toList ≠ [] :=
    List.ne_nil_of_mem (hyphen_mem_assetName artifact b)
  have hsplit : cs ++ suffix artifact tag b =
      (cs ++ '/' :: tag.text.toList ++ ['/']) ++ (assetName artifact b).toList := by simp [suffix]
  rw [hsplit, List.getLast?_append_of_ne_nil _ hne] at h
  have hasset := assetName_unreserved hartifact hbuild c (List.mem_of_getLast? h)
  exact (Url.IsInner.of_unreserved hasset).edge

/-- The steps of the address, behind the steps of the base. -/
theorem readPath_suffix {path : List Char}
    (hhead : ∀ c, path.head? = some c → Url.isSlash .special c = true) :
    Url.readPath .special (path ++ suffix artifact tag b) =
      Url.enclosed path ++
        (if tag.text = "." then []
          else [Url.Percent.encode Url.Percent.inPathSet tag.text.toList]) ++
        [(assetName artifact b).toList] := by
  have hasset := assetName_unreserved hartifact hbuild
  have hdots := Url.not_dot_of_hyphen (hyphen_mem_assetName artifact b)
  have hsteps : Url.splitSteps .special (tag.text.toList ++ '/' :: (assetName artifact b).toList) =
      [tag.text.toList, (assetName artifact b).toList] := by
    rw [Url.splitSteps_append_cons Url.isSlash_slash,
      Url.splitSteps_of_no_slash fun c hc => (tag.isInner hc).slash,
      Url.splitSteps_of_no_slash fun c hc => (Url.IsInner.of_unreserved (hasset c hc)).slash]
    rfl
  rw [suffix, Url.readPath_append_slash hhead, hsteps, Url.walkSteps, tag.not_doubleDot]
  by_cases hdot : tag.text = "."
  · rw [tag.isSingleDot_iff.2 hdot, if_pos hdot]
    simp [Url.walkSteps, hdots, Url.encode_unreserved hasset]
  · have hsingle : Url.isSingleDot tag.text.toList = false := by
      simpa [hdot] using tag.isSingleDot_iff
    rw [hsingle, if_neg hdot]
    simp [Url.walkSteps, hdots, Url.encode_unreserved hasset]

omit hartifact hbuild in
/-- What counts of a base, and of the base with more behind it. Only blanks at the end of the base
come in between. -/
theorem significant_written (hbase : Url.parse base = .ok u) :
    ∃ front n blanks, Url.significant base.toList = front ++ List.replicate n '/' ∧
      (∀ c ∈ blanks, Url.isTail c = false) ∧
      (Url.EndsPlain base.toList →
        front = Url.lasting (trimSlashes base).toList ∧ blanks = []) ∧
      ∀ ys, ys ≠ [] → (∀ c ∈ ys, Url.isKept c = true) →
        (∀ c, ys.getLast? = some c → Url.isEdge c = false) →
        Url.significant ((trimSlashes base).toList ++ ys) = front ++ (blanks ++ ys) := by
  obtain ⟨n, hn⟩ := trimSlashes_append base
  have hslashes : ∀ c ∈ List.replicate n '/', Url.isKept c = true := fun c hc =>
    List.eq_of_mem_replicate hc ▸ rfl
  have hcolon : ':' ∈ (trimSlashes base).toList := by
    obtain ⟨rest, hscheme⟩ := Url.parse_scheme hbase
    obtain ⟨name, hname, -⟩ := Url.scheme?_eq_some hscheme
    obtain ⟨blanks, hlasting, -, -⟩ := Url.lasting_eq_significant_append base.toList
    have hmem : ':' ∈ Url.lasting base.toList := by simp [hlasting, hname]
    have hbase : ':' ∈ base.toList :=
      (List.dropWhile_suffix _).subset (List.mem_filter.1 hmem).1
    rw [hn] at hbase
    apply (List.mem_append.1 hbase).resolve_right
    intro hc
    cases List.eq_of_mem_replicate hc
  have hstart : (trimSlashes base).toList.dropWhile Url.isEdge ≠ [] := by
    intro hnil
    cases List.dropWhile_eq_nil_iff.1 hnil ':' hcolon
  have hwritten : ∀ ys, ys ≠ [] → (∀ c ∈ ys, Url.isKept c = true) →
      (∀ c, ys.getLast? = some c → Url.isEdge c = false) →
      Url.significant ((trimSlashes base).toList ++ ys) =
        Url.lasting (trimSlashes base).toList ++ ys := by
    intro ys hne hkept hlast
    have hplain : Url.EndsPlain ((trimSlashes base).toList ++ ys) := by
      apply Url.endsPlain_of_getLast?
      intro c hc
      rw [List.getLast?_append_of_ne_nil _ hne] at hc
      exact hlast c hc
    rw [Url.significant_eq_lasting hplain, Url.lasting_append hstart, List.filter_eq_self.2 hkept]
  by_cases hplain : Url.EndsPlain base.toList
  · refine ⟨Url.lasting (trimSlashes base).toList, n, [], ?_, by simp, ?_, ?_⟩
    · rw [Url.significant_eq_lasting hplain, hn, Url.lasting_append hstart,
        List.filter_eq_self.2 hslashes]
    · intro _
      exact ⟨rfl, rfl⟩
    · intro ys hne hkept hlast
      exact hwritten ys hne hkept hlast
  · -- A slash at the end would be plain, so that nothing was trimmed.
    have hsame : (trimSlashes base).toList = base.toList := by
      cases n with
      | zero => simpa using hn.symm
      | succ n =>
        refine absurd (Url.endsPlain_of_getLast? fun c hc => ?_) hplain
        rw [hn, List.replicate_succ', ← List.append_assoc, List.getLast?_concat,
          Option.some.injEq] at hc
        rw [← hc]
        rfl
    obtain ⟨blanks, hlasting, hedge, -⟩ := Url.lasting_eq_significant_append base.toList
    refine ⟨Url.significant base.toList, 0, blanks, by simp, ?_, ?_, ?_⟩
    · intro c hc
      have hblank := hedge c hc
      rw [Bool.eq_false_iff]
      intro htail
      rcases Url.eq_of_isTail htail with rfl | rfl <;> cases hblank
    · intro h
      exact absurd h hplain
    · intro ys hne hkept hlast
      rw [hwritten ys hne hkept hlast, hsame, hlasting, List.append_assoc]

variable (tag) (hbase : Url.parse base = .ok u) (hweb : Url.IsWeb u.scheme)

include hbase hweb

theorem url_parses :
    ∃ path n blanks, (∀ c, path.head? = some c → Url.endsAuthority .special c = true) ∧
      u = u.withText (path ++ List.replicate n '/') ∧ (∀ c ∈ blanks, Url.isTail c = false) ∧
      (path ≠ [] ∨ blanks = [] → Url.parse (url base artifact tag b) =
        .ok (u.withText (path ++ (blanks ++ suffix artifact tag b)))) ∧
      (Url.EndsPlain base.toList → path <:+ Url.lasting (trimSlashes base).toList ∧ blanks = [] ∧
        Url.parse (trimSlashes base ++ "/") = .ok (u.withText (path ++ ['/']))) := by
  obtain ⟨front, n, blanks, hfront, hmarks, hplain, hwritten⟩ := significant_written hbase
  obtain ⟨path, hpath, hhead, hread⟩ := Url.parse_append hbase hweb hfront
  refine ⟨path, n, blanks, hhead, ?_, hmarks, ?_, ?_⟩
  · exact Except.ok.inj (hbase.symm.trans
      (hread base _ hfront fun _ => Url.isOnward_replicate n))
  · intro hstart
    have hkept : ∀ c ∈ suffix artifact tag b, Url.isKept c = true := fun c hc =>
      isKept_of_mem_suffix hartifact hbuild hc
    have hlast : ∀ c, (suffix artifact tag b).getLast? = some c → Url.isEdge c = false :=
      fun c hc => not_isEdge_of_getLast?_suffix hartifact hbuild [] hc
    have hurl := hwritten _ (List.cons_ne_nil _ _) hkept hlast
    refine hread _ _ ?_ fun hnil => ?_
    · rw [toList_url]
      exact hurl
    · rw [hstart.resolve_left (not_not.2 hnil)]
      exact Url.isOnward_cons _
  · intro hbare
    obtain ⟨hlasting, rfl⟩ := hplain hbare
    refine ⟨hlasting ▸ hpath, rfl, hread _ ['/'] ?_ fun _ => Url.isOnward_cons []⟩
    have hkept : ∀ c ∈ ['/'], Url.isKept c = true := fun c hc =>
      List.eq_of_mem_singleton hc ▸ rfl
    have hlast : ∀ c, ['/'].getLast? = some c → Url.isEdge c = false := fun c hc =>
      Option.some.inj hc ▸ rfl
    rw [String.toList_append]
    exact hwritten ['/'] (List.cons_ne_nil _ _) hkept hlast

/-- A base without a query and a fragment: the steps that its path encloses stay, and tag and asset
follow them, as if the base had one slash at its end. -/
theorem url_of_bare (hplain : Url.EndsPlain base.toList)
    (hbare : u.query = none ∧ u.fragment = none) :
    ∃ steps k, u.path = .segments (steps ++ List.replicate k []) ∧
      Url.parse (trimSlashes base ++ "/") = .ok { u with path := .segments (steps ++ [[]]) } ∧
      Url.parse (url base artifact tag b) =
        .ok { u with
          path := .segments (steps ++
            (if tag.text = "." then []
              else [Url.Percent.encode Url.Percent.inPathSet tag.text.toList]) ++
            [(assetName artifact b).toList]) } ∧
      (endsWithName base = true → steps = [] ∨
        ∃ front step, steps = front ++ [step] ∧ step ≠ [] ∧ '/' ∉ step) := by
  obtain ⟨path, n, blanks, hhead, hu, -, hurl, hends⟩ :=
    url_parses (b := b) tag hartifact hbuild hbase hweb
  obtain ⟨hpath, rfl, hclosed⟩ := hends hplain
  have hnone : ∀ c ∈ path, Url.isTail c = false := (Url.bare_iff hu (not_isTail_of_slash n)).1 hbare
  have hall : ∀ ys, (∀ c ∈ ys, Url.isTail c = false) → ∀ c ∈ path ++ ys, Url.isTail c = false :=
    fun ys hys c hc => (List.mem_append.1 hc).elim (hnone c) (hys c)
  have hslash : ∀ c, path.head? = some c → Url.isSlash .special c = true := fun c hc =>
    Url.isSlash_of_head? hnone hhead hc
  obtain ⟨k, hk⟩ := Url.readPath_append_slashes hslash n
  refine ⟨Url.enclosed path, k, ?_, ?_, ?_, ?_⟩
  · rw [u.withText_of_no_tail (hall _ (not_isTail_of_slash n)), hk] at hu
    exact congrArg Url.path hu
  · have hmarks : ∀ c ∈ path ++ ['/'], Url.isTail c = false := hall _ (not_isTail_of_slash 1)
    rw [hclosed, u.withText_of_no_tail hmarks, Url.readPath_append_slash hslash, hbare.1, hbare.2]
    simp [Url.splitSteps, Url.walkSteps, Url.isDoubleDot, Url.isSingleDot, Url.Percent.encode]
  · have hmarks : ∀ c ∈ path ++ suffix artifact tag b, Url.isTail c = false :=
      hall _ fun c hc => not_isTail_of_mem_suffix hartifact hbuild hc
    rw [hurl (Or.inr rfl), List.nil_append, u.withText_of_no_tail hmarks,
      readPath_suffix hartifact hbuild hslash, hbare.1, hbare.2]
  · intro hname
    exact enclosed_of_endsWithName hname hpath hslash

/-- A query or a fragment at the end of the base takes up tag and asset. -/
theorem url_of_tailed (hbare : ¬(u.query = none ∧ u.fragment = none)) :
    ∃ query fragment, Url.parse (url base artifact tag b) = .ok { u with query, fragment } ∧
      query.isSome = u.query.isSome ∧ fragment.isSome = u.fragment.isSome := by
  obtain ⟨path, n, blanks, hhead, hu, hmarks, hurl, -⟩ :=
    url_parses (b := b) tag hartifact hbuild hbase hweb
  rcases Url.tail_cases path with hnone | ⟨front, c, rest, rfl, hc, hfront⟩
  · exact absurd ((Url.bare_iff hu (not_isTail_of_slash n)).2 hnone) hbare
  · have hbehind : ∀ d ∈ blanks ++ suffix artifact tag b, Url.isTail d = false := fun d hd =>
      (List.mem_append.1 hd).elim (hmarks d) (not_isTail_of_mem_suffix hartifact hbuild)
    obtain ⟨hpath, hquery, hfragment⟩ := u.withText_of_tail rest hc hfront (not_isTail_of_slash n)
    obtain ⟨hpath', hquery', hfragment'⟩ := u.withText_of_tail rest hc hfront hbehind
    rw [← hu] at hpath hquery hfragment
    refine ⟨_, _, ?_, hquery'.trans hquery.symm, hfragment'.trans hfragment.symm⟩
    rw [hurl (Or.inl (by simp)), hpath, ← hpath']
    rfl

end Reading

/-- In the address of a release the steps of the base come first, without empty ones at the end if
the base ends with a name. Then comes the tag, which is no step if it is a single dot, and then the
asset. -/
theorem url_keeps_steps {base artifact : String} {os : HostOs} {b : Build} {u : Url} (tag : Tag)
    (hbase : Url.parse base = .ok u) (hweb : Url.IsWeb u.scheme)
    (hquery : u.query = none) (hfragment : u.fragment = none)
    (hend : ∀ c, base.toList.getLast? = some c → Url.isEdge c = false)
    (hartifact : ∀ c ∈ artifact.toList, Url.isUnreserved c = true)
    (hbuild : os.build? = some b) :
    ∃ idle step, Url.Percent.decode step = Url.Percent.utf8 tag.text.toList ∧
      Url.parse (url base artifact tag b) =
        .ok { u with
          path := .segments (u.segments.rdropWhile List.isEmpty ++ List.replicate idle [] ++
            (if tag.text = "." then [] else [step]) ++ [(assetName artifact b).toList]) } ∧
      (endsWithName base = true → idle = 0) := by
  obtain ⟨steps, k, hpath, -, hurl, hname⟩ :=
    url_of_bare tag hartifact hbuild hbase hweb (Url.endsPlain_of_getLast? hend) ⟨hquery, hfragment⟩
  obtain ⟨idle, hidle, hfirm⟩ := exists_eq_rdropWhile_append (p := List.isEmpty) (a := [])
    (fun _ => List.isEmpty_iff.1) steps
  have hsegments : u.segments.rdropWhile List.isEmpty = steps.rdropWhile List.isEmpty := by
    rw [Url.segments, hpath]
    exact rdropWhile_append_replicate rfl steps k
  refine ⟨idle, _, Url.Percent.decode_encode Url.Percent.inPathSet tag.no_percent, ?_, ?_⟩
  · rw [hurl, hsegments, ← hidle]
  · intro h
    apply hfirm
    intro x hx
    rcases hname h with rfl | ⟨front, step, rfl, hne, -⟩
    · cases hx
    · rw [List.getLast?_concat, Option.some.injEq] at hx
      simpa [← hx] using hne

/-- An address with a path and two slashes behind it. -/
def slashed : Url where
  scheme := "http".toList
  username := []
  password := []
  host := some (.ipv6 [0, 0, 0, 0, 0, 0, 0, 1])
  port := none
  path := .segments ["a".toList, [], []]
  query := none
  fragment := none

theorem parse_slashed : Url.parse "http://[::1]/a//" = .ok slashed :=
  Tree.toOption_eq_some_iff.1 (by decide +kernel)

theorem not_isEdge_of_slashed (c : Char) (h : "http://[::1]/a//".toList.getLast? = some c) :
    Url.isEdge c = false := by
  have hlast : "http://[::1]/a//".toList.getLast? = some '/' := by decide +kernel
  obtain rfl := Option.some.inj (hlast.symm.trans h)
  rfl

/-- The slashes at the end of the base make no step. -/
theorem url_keeps_steps_behind_slashes :
    Url.parse "http://[::1]/a//" = .ok slashed ∧
      ∃ step, Url.Percent.decode step = Url.Percent.utf8 "v1".toList ∧
        Url.parse (url "http://[::1]/a//" "x" Acquirer.firstTag ⟨.linux, ""⟩) =
          .ok { slashed with path := .segments ["a".toList, step, "x-linux".toList] } := by
  refine ⟨parse_slashed, ?_⟩
  have hartifact : ∀ c ∈ "x".toList, Url.isUnreserved c = true :=
    List.all_eq_true.1 (by decide +kernel)
  have hbuild : HostOs.linux.build? = some ⟨.linux, ""⟩ := rfl
  obtain ⟨idle, step, hdecode, hurl, hname⟩ :=
    url_keeps_steps Acquirer.firstTag parse_slashed (Or.inl rfl) rfl rfl not_isEdge_of_slashed
      hartifact hbuild
  obtain rfl := hname (by decide +kernel)
  exact ⟨step, hdecode, hurl⟩

def dotTag : Tag := ⟨".", by decide +kernel⟩

/-- The address for a tag of a single dot is that of a file beside the directories of the tags. -/
theorem dot_tag_is_no_step :
    dotTag.text = "." ∧
      Url.parse (url "http://[::1]/a//" "x" dotTag ⟨.linux, ""⟩) =
        .ok { slashed with path := .segments ["a".toList, "x-linux".toList] } :=
  ⟨rfl, Tree.toOption_eq_some_iff.1 (by decide +kernel)⟩

/-- A base that ends with a backslash: the empty step at its end stays. -/
example :
    (Url.parse (url "http://[::1]/a\\" "x" Acquirer.firstTag ⟨.linux, ""⟩)).toOption.map
        Url.segments = some ["a".toList, [], "v1".toList, "x-linux".toList] := by
  decide +kernel

end Release

theorem Config.validate_eq_ok {c : Config} (h : c.validate = .ok ()) :
    ∃ u, Url.parse c.releaseUrl = .ok u ∧ Url.IsWeb u.scheme := by
  unfold validate at h
  cases hparse : Url.parse c.releaseUrl with
  | error cause =>
    rw [hparse] at h
    cases h
  | ok u =>
    rw [hparse] at h
    dsimp only at h
    split at h
    · cases h
    · rename_i hscheme
      refine ⟨u, rfl, ?_⟩
      by_contra hweb
      exact hscheme (not_or.1 hweb)

namespace Acquirer

variable {a : Acquirer} {os : HostOs} {b : Build} {tag : Tag}

theorem url_of_host (hhost : a.host = some os) (hbuild : os.build? = some b) :
    a.url tag = .ok (Release.url a.config.releaseUrl a.config.artifact tag b) := by
  simp [url, build, Release.build, hhost, hbuild, Except.map]

/-- The address of a release for settings that pass the check. A base without a query and a fragment
and without a blank at its end stands in front of tag and asset as if it had one slash at its end;
that is the path of the base itself, unless two slashes are left there. A query or a fragment takes
up tag and asset. -/
theorem url_extends_base (tag : Tag) (hvalid : a.config.validate = .ok ())
    (hartifact : ∀ c ∈ a.config.artifact.toList, Url.isUnreserved c = true)
    (hhost : a.host = some os) (hbuild : os.build? = some b) (htag : tag.text ≠ ".") :
    ∃ u url, Url.parse a.config.releaseUrl = .ok u ∧ a.url tag = .ok url ∧
      (u.query = none ∧ u.fragment = none → Url.EndsPlain a.config.releaseUrl.toList →
        ∃ v w step, Url.parse url = .ok v ∧
          v.scheme = u.scheme ∧ v.host = u.host ∧ v.port = u.port ∧
          v.query = none ∧ v.fragment = none ∧
          Url.Percent.decode step = Url.Percent.utf8 tag.text.toList ∧
          ((∀ c ∈ tag.text.toList, Url.isUnreserved c = true) → step = tag.text.toList) ∧
          Url.parse (Release.trimSlashes a.config.releaseUrl ++ "/") = .ok w ∧
          v.path.chars = w.path.chars ++ step ++ '/' :: (Release.assetName a.config.artifact b).toList ∧
          (v.path.chars = u.path.chars.rdropWhile (· == '/') ++
              '/' :: step ++ '/' :: (Release.assetName a.config.artifact b).toList ↔
            ¬"//".toList <:+ w.path.chars)) ∧
      (¬(u.query = none ∧ u.fragment = none) →
        ∃ v, Url.parse url = .ok v ∧ v.scheme = u.scheme ∧ v.host = u.host ∧ v.port = u.port ∧
          v.path = u.path ∧ v.query.isSome = u.query.isSome ∧
          v.fragment.isSome = u.fragment.isSome) := by
  obtain ⟨u, hbase, hweb⟩ := Config.validate_eq_ok hvalid
  refine ⟨u, _, hbase, url_of_host hhost hbuild, ?_, ?_⟩
  · intro hbare hplain
    obtain ⟨steps, k, hpath, hclosed, hurl, -⟩ :=
      Release.url_of_bare tag hartifact hbuild hbase hweb hplain hbare
    rw [if_neg htag] at hurl
    obtain ⟨idle, hidle, -⟩ := exists_eq_rdropWhile_append (p := (· == '/')) (a := '/')
      (by simp) (Url.Path.segments steps).chars
    have hlast := getLast?_rdropWhile_ne (p := (· == '/')) (a := '/') (by simp)
      (Url.Path.segments steps).chars
    have hchars : u.path.chars.rdropWhile (· == '/') =
        (Url.Path.segments steps).chars.rdropWhile (· == '/') := by
      rw [hpath, Url.chars_append_replicate]
      exact rdropWhile_append_replicate (by decide) _ k
    have hdecoded := Url.Percent.decode_encode Url.Percent.inPathSet tag.no_percent
    refine ⟨_, _, Url.Percent.encode Url.Percent.inPathSet tag.text.toList, hurl, rfl, rfl, rfl,
      hbare.1, hbare.2, hdecoded, Url.encode_unreserved, hclosed, ?_, ?_⟩
    · simp [Url.Path.chars]
    · have hopen : (Url.Path.segments (steps ++ [[]])).chars =
          (Url.Path.segments steps).chars.rdropWhile (· == '/') ++ List.replicate idle '/' ++
            ['/'] := by
        rw [← hidle]
        simp [Url.Path.chars]
      have hpair : "//".toList <:+ (Url.Path.segments (steps ++ [[]])).chars ↔ idle ≠ 0 :=
        hopen ▸ pair_suffix_iff hlast idle
      have hwhole : ∀ step asset : List Char,
          (Url.Path.segments (steps ++ [step] ++ [asset])).chars =
            (Url.Path.segments steps).chars.rdropWhile (· == '/') ++ List.replicate idle '/' ++
              ('/' :: step ++ '/' :: asset) := by
        intro step asset
        rw [← hidle]
        simp [Url.Path.chars]
      rw [hpair, not_not, hchars, hwhole, List.append_assoc _ ('/' :: _) _]
      exact append_replicate_append_iff _ _ idle
  · intro hbare
    obtain ⟨query, fragment, hurl, hquery, hfragment⟩ :=
      Release.url_of_tailed tag hartifact hbuild hbase hweb hbare
    exact ⟨_, hurl, rfl, rfl, rfl, rfl, hquery, hfragment⟩

/-- Settings with a step back and a tab at the end of the base. -/
def returningMirror : Acquirer :=
  { plain with config := { releaseUrl := "http://[::1]/a/b/..\t" } }

def returned : Url where
  scheme := "http".toList
  username := []
  password := []
  host := some (.ipv6 [0, 0, 0, 0, 0, 0, 0, 1])
  port := none
  path := .segments ["a".toList, []]
  query := none
  fragment := none

theorem url_extends_base_behind_dots :
    returningMirror.config.validate = .ok () ∧
      ∃ url v, returningMirror.url firstTag = .ok url ∧ Url.parse url = .ok v ∧
        v.host = returned.host ∧ v.query = none ∧
        v.path.chars = "/a/v1/prosemd-lsp-linux".toList := by
  have hvalid : returningMirror.config.validate = .ok () :=
    Tree.toOption_eq_some_iff.1 (by decide +kernel)
  have hparse : Url.parse returningMirror.config.releaseUrl = .ok returned :=
    Tree.toOption_eq_some_iff.1 (by decide +kernel)
  have hclosed : Url.parse (Release.trimSlashes returningMirror.config.releaseUrl ++ "/") =
      .ok returned := Tree.toOption_eq_some_iff.1 (by decide +kernel)
  have hplain : Url.EndsPlain returningMirror.config.releaseUrl.toList := by
    have hlast : (returningMirror.config.releaseUrl.toList.filter Url.isKept).getLast? = some '.' := by
      decide +kernel
    intro c hc
    obtain rfl := Option.some.inj (hlast.symm.trans hc)
    rfl
  refine ⟨hvalid, ?_⟩
  obtain ⟨u, url, hbase, hurl, hbare, -⟩ := url_extends_base firstTag hvalid
    (List.all_eq_true.1 (by decide +kernel)) rfl rfl (by decide +kernel)
  obtain rfl : u = returned := Except.ok.inj (hbase.symm.trans hparse)
  obtain ⟨v, w, step, hv, -, hhost, -, hquery, -, -, hstep, hw, -, hpath⟩ := hbare ⟨rfl, rfl⟩ hplain
  obtain rfl : w = returned := Except.ok.inj (hw.symm.trans hclosed)
  obtain rfl := hstep (List.all_eq_true.1 (by decide +kernel))
  exact ⟨url, v, hurl, hv, hhost, hquery, hpath.2 (by decide +kernel)⟩

/-- The settings with another base. -/
def mirror (base : String) : Acquirer := { plain with config := { releaseUrl := base } }

/-- Three bases that pass the check and whose path does not stand in front of tag and asset: a query
takes them up, a backslash at the end leaves an empty step, and a space becomes a part of the last
step. -/
theorem base_ends_beside_path :
    ((mirror "http://[::1]/a?x=1").config.validate = .ok () ∧
      (mirror "http://[::1]/a?x=1").url firstTag =
        .ok "http://[::1]/a?x=1/v1/prosemd-lsp-linux" ∧
      Url.parse "http://[::1]/a?x=1/v1/prosemd-lsp-linux" =
        .ok { returned with
          path := .segments ["a".toList]
          query := some "x=1/v1/prosemd-lsp-linux".toList }) ∧
    ((mirror "http://[::1]/a\\").config.validate = .ok () ∧
      (mirror "http://[::1]/a\\").url firstTag = .ok "http://[::1]/a\\/v1/prosemd-lsp-linux" ∧
      Url.parse "http://[::1]/a\\/v1/prosemd-lsp-linux" =
        .ok { returned with
          path := .segments ["a".toList, [], "v1".toList, "prosemd-lsp-linux".toList] }) ∧
    (mirror "http://[::1]/a ").config.validate = .ok () ∧
      (mirror "http://[::1]/a ").url firstTag = .ok "http://[::1]/a /v1/prosemd-lsp-linux" ∧
      Url.parse "http://[::1]/a /v1/prosemd-lsp-linux" =
        .ok { returned with
          path := .segments ["a%20".toList, "v1".toList, "prosemd-lsp-linux".toList] } := by
  refine ⟨⟨?_, ?_, ?_⟩, ⟨?_, ?_, ?_⟩, ?_, ?_, ?_⟩ <;>
    exact Tree.toOption_eq_some_iff.1 (by decide +kernel)

end Acquirer

end ServerLauncher
