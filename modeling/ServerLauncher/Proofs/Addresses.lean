import Mathlib.Data.List.DropRight
import Mathlib.Data.List.TakeWhile
import ServerLauncher.Url.Parser

/-!
Addresses that are written on. The text of an address of a well-known scheme ends with its path, its
query and its fragment. What is written behind it from a slash on goes into the last of these, and
scheme, user, host and port stay as they were.
-/

namespace ServerLauncher.Url

/-- Nothing, or a text that starts with a slash. -/
def IsOnward (cs : List Char) : Prop :=
  ∀ c, cs.head? = some c → c = '/'

theorem isOnward_replicate (n : Nat) : IsOnward (List.replicate n '/') := by
  intro c hc
  exact List.eq_of_mem_replicate (List.mem_of_head? hc)

theorem isOnward_cons (cs : List Char) : IsOnward ('/' :: cs) := by
  intro c hc
  simpa using hc.symm

theorem takeWhile_append_onward {p : Char → Bool} (hp : p '/' = false) (cs : List Char)
    {xs : List Char} (hx : IsOnward xs) :
    (cs ++ xs).takeWhile p = cs.takeWhile p ∧ (cs ++ xs).dropWhile p = cs.dropWhile p ++ xs := by
  have hxs : xs.takeWhile p = [] ∧ xs.dropWhile p = xs := by
    cases xs with
    | nil => exact ⟨rfl, rfl⟩
    | cons c rest =>
      obtain rfl := hx c rfl
      simp [hp]
  induction cs with
  | nil => exact hxs
  | cons c cs ih =>
    by_cases hc : p c = true
    · simpa [hc] using ih
    · simp [hc]

theorem takeWhile_append_of_dropWhile {p : Char → Bool} {cs : List Char} (h : cs.dropWhile p ≠ [])
    (xs : List Char) :
    (cs ++ xs).takeWhile p = cs.takeWhile p ∧ (cs ++ xs).dropWhile p = cs.dropWhile p ++ xs := by
  have hlen : (cs.takeWhile p).length ≠ cs.length := by
    intro hlen
    have hsum := congrArg List.length (List.takeWhile_append_dropWhile (p := p) (l := cs))
    rw [List.length_append, hlen] at hsum
    exact h (List.eq_nil_of_length_eq_zero (by omega))
  rw [List.takeWhile_append, List.dropWhile_append, if_neg hlen, if_neg (by simpa using h)]
  exact ⟨rfl, rfl⟩

/-- Left out at both ends. -/
def isEdge (c : Char) : Bool :=
  c.toNat ≤ 0x20

def isKept (c : Char) : Bool :=
  c != '\t' && c != '\n' && c != '\r'

/-- The characters that count, if nothing is left out at the end. -/
def lasting (cs : List Char) : List Char :=
  (cs.dropWhile isEdge).filter isKept

/-- The last character that is left out nowhere else is not left out at the end. -/
def EndsPlain (cs : List Char) : Prop :=
  ∀ c, (cs.filter isKept).getLast? = some c → isEdge c = false

theorem endsPlain_of_getLast? {cs : List Char}
    (h : ∀ c, cs.getLast? = some c → isEdge c = false) : EndsPlain cs := by
  rcases List.eq_nil_or_concat' cs with rfl | ⟨front, d, rfl⟩
  · intro c hc
    cases hc
  · have hedge : isEdge d = false := h d List.getLast?_concat
    have hkept : isKept d = true := by
      have hne : ∀ e, isEdge e = true → (d != e) = true := by
        rintro e he
        simpa using fun heq : d = e => Bool.false_ne_true ((heq ▸ hedge).symm.trans he)
      simp only [isKept, hne '\t' (by decide), hne '\n' (by decide), hne '\r' (by decide),
        Bool.and_self]
    intro c hc
    rw [List.filter_append, List.filter_cons_of_pos hkept, List.filter_nil, List.getLast?_concat,
      Option.some.injEq] at hc
    rw [← hc, hedge]

theorem lasting_eq_significant_append (cs : List Char) :
    ∃ blanks, lasting cs = significant cs ++ blanks ∧ (∀ c ∈ blanks, isEdge c = true) ∧
      (EndsPlain cs → blanks = []) := by
  have hsplit : (cs.dropWhile isEdge).rdropWhile isEdge ++ (cs.dropWhile isEdge).rtakeWhile isEdge =
      cs.dropWhile isEdge := List.rdropWhile_append_rtakeWhile
  generalize hblanks : (cs.dropWhile isEdge).rtakeWhile isEdge = blanks at hsplit
  have hedge : ∀ c ∈ blanks, isEdge c = true := fun c hc =>
    List.mem_rtakeWhile_imp (hblanks ▸ hc)
  have hlasting : lasting cs = significant cs ++ blanks.filter isKept := by
    rw [lasting, ← hsplit, List.filter_append]
    rfl
  refine ⟨blanks.filter isKept, hlasting, ?_, ?_⟩
  · intro c hc
    exact hedge c (List.mem_filter.1 hc).1
  intro hplain
  rcases List.eq_nil_or_concat' (blanks.filter isKept) with hnil | ⟨front, c, hlast⟩
  · exact hnil
  · have hkept : (cs.filter isKept).getLast? = some c := by
      rw [← List.takeWhile_append_dropWhile (p := isEdge) (l := cs), List.filter_append, ← lasting,
        hlasting, hlast, ← List.append_assoc, ← List.append_assoc, List.getLast?_concat]
    have hmem : c ∈ blanks.filter isKept := hlast ▸ List.mem_append_right front List.mem_cons_self
    have hc := hedge c (List.mem_filter.1 hmem).1
    rw [hplain c hkept] at hc
    cases hc

theorem significant_eq_lasting {cs : List Char} (h : EndsPlain cs) : significant cs = lasting cs := by
  obtain ⟨blanks, hlasting, -, hnone⟩ := lasting_eq_significant_append cs
  rw [hlasting, hnone h, List.append_nil]

theorem lasting_append {cs : List Char} (h : cs.dropWhile isEdge ≠ []) (xs : List Char) :
    lasting (cs ++ xs) = lasting cs ++ xs.filter isKept := by
  rw [lasting, List.dropWhile_append, if_neg (by simpa using h), List.filter_append, lasting]

theorem scheme?_eq_some {cs scheme rest : List Char} (h : scheme? cs = some (scheme, rest)) :
    ∃ name, cs = name ++ ':' :: rest ∧ ∀ ys, scheme? (name ++ ':' :: ys) = some (scheme, ys) := by
  cases cs with
  | nil => cases h
  | cons c cs =>
    rw [scheme?] at h
    split at h
    · rename_i halpha
      split at h
      · rename_i rest' hdrop
        obtain ⟨rfl, rfl⟩ := Prod.mk.inj (Option.some.inj h)
        have hc : isSchemeChar c = true := by simp [isSchemeChar, Char.isAlphanum, halpha]
        have hsplit := List.takeWhile_append_dropWhile (p := isSchemeChar) (l := c :: cs)
        rw [hdrop] at hsplit
        refine ⟨_, hsplit.symm, ?_⟩
        intro ys
        have hname : ∀ d ∈ cs.takeWhile isSchemeChar, isSchemeChar d = true :=
          List.all_eq_true.1 List.all_takeWhile
        have hcolon : isSchemeChar ':' = false := by decide
        have htake : (cs.takeWhile isSchemeChar ++ ':' :: ys).takeWhile isSchemeChar =
            cs.takeWhile isSchemeChar ++ (':' :: ys).takeWhile isSchemeChar :=
          List.takeWhile_append_of_pos hname
        have hrest : (cs.takeWhile isSchemeChar ++ ':' :: ys).dropWhile isSchemeChar =
            (':' :: ys).dropWhile isSchemeChar := List.dropWhile_append_of_pos hname
        simp [scheme?, halpha, hc, htake, hrest, hcolon]
      · cases h
    · cases h

theorem scheme?_append {cs xs scheme rest : List Char} (hcolon : ':' ∉ xs)
    (h : scheme? (cs ++ xs) = some (scheme, rest)) :
    ∃ more, rest = more ++ xs ∧ more <:+ cs ∧
      ∀ ys, scheme? (cs ++ ys) = some (scheme, more ++ ys) := by
  obtain ⟨name, hsplit, hread⟩ := scheme?_eq_some h
  rcases List.append_eq_append_iff.1 hsplit with ⟨more, rfl, htail⟩ | ⟨more, rfl, htail⟩
  · exact absurd (htail.symm ▸ List.mem_append_right more List.mem_cons_self) hcolon
  · cases more with
    | nil => exact absurd (htail ▸ List.mem_cons_self : ':' ∈ [] ++ xs) hcolon
    | cons c more =>
      obtain ⟨rfl, rfl⟩ := List.cons.inj htail
      refine ⟨more, rfl, ⟨name ++ [':'], by simp⟩, ?_⟩
      intro ys
      rw [List.append_assoc, List.cons_append]
      exact hread _

theorem splitUser_subset (cs : List Char) : (splitUser cs).2 ⊆ cs := by
  rw [splitUser]
  split
  · intro c hc
    have hsub := (List.takeWhile_sublist (fun d => d != '@') (l := cs.reverse)).subset
    exact List.mem_reverse.1 (hsub (List.mem_reverse.1 hc))
  · exact List.Subset.refl cs

theorem splitPort_suffix (inside : Bool) (cs : List Char) : (splitPort inside cs).2 <:+ cs := by
  induction cs generalizing inside with
  | nil => simp [splitPort]
  | cons c cs ih =>
    rw [splitPort]
    split
    · exact List.suffix_refl _
    · exact (ih _).trans (List.suffix_cons c cs)

theorem readPort_eq_ok {scheme cs more : List Char} {port : Option Nat}
    (h : readPort scheme cs = .ok (port, more)) :
    more = [] ∨ ∃ c ∈ cs, endsAuthority .special c = true := by
  simp only [readPort] at h
  split at h
  · cases h
  · split at h
    · cases h
    · rename_i hnext
      have hmore : cs.dropWhile Address.isDigit = more := (Prod.mk.inj (Except.ok.inj h)).2
      rw [hmore] at hnext
      cases more with
      | nil => exact Or.inl rfl
      | cons c rest =>
        have hmem : c ∈ cs :=
          (List.dropWhile_suffix Address.isDigit).subset (hmore ▸ List.mem_cons_self)
        refine Or.inr ⟨c, hmem, ?_⟩
        cases hends : endsAuthority .special c with
        | true => rfl
        | false =>
          simp only [endsAuthority, isSlash, Bool.or_eq_false_iff, Bool.and_eq_false_iff] at hends
          simp_all

section Authority

variable {scheme cs : List Char}

/-- The characters in front of the path. -/
def authorityOf (cs : List Char) : List Char :=
  cs.takeWhile fun c => !endsAuthority .special c

/-- The characters from the path on. -/
def afterAuthority (cs : List Char) : List Char :=
  cs.dropWhile fun c => !endsAuthority .special c

theorem endsAuthority_of_mem {c : Char} (h : c ∈ authorityOf cs) :
    endsAuthority .special c = false := by
  simpa using List.all_eq_true.1 List.all_takeWhile c h

theorem readAuthority_host {user : Option (List Char)} {place hostText portText : List Char}
    (huser : splitUser (authorityOf cs) = (user, place))
    (hport : splitPort false place = (hostText, portText)) (hhost : hostText ≠ []) :
    readAuthority .special scheme cs =
      (readHost hostText).bind fun host =>
        (if portText = [] then .ok (none, []) else readPort scheme (portText.drop 1)).bind fun r =>
          .ok (finish .special scheme
            (Percent.encode Percent.inUserSet ((user.getD []).takeWhile (· != ':')))
            (Percent.encode Percent.inUserSet (((user.getD []).dropWhile (· != ':')).drop 1))
            (some host) r.1 (r.2 ++ afterAuthority cs)) := by
  have hplace : place ≠ [] := by
    rintro rfl
    exact hhost (congrArg Prod.fst hport).symm
  rw [authorityOf] at huser
  simp only [readAuthority, huser, hport, hplace, hhost, false_and, and_false, if_false,
    reduceCtorEq, pure_bind]
  split <;> rfl

theorem readAuthority_no_host {user : Option (List Char)} {place portText : List Char}
    (huser : splitUser (authorityOf cs) = (user, place))
    (hport : splitPort false place = ([], portText)) :
    readAuthority .special scheme cs = .error .emptyHost := by
  rw [authorityOf] at huser
  simp only [readAuthority, huser, hport, true_or, and_self, if_true]
  split <;> rfl

/-- The address with another text from its path on. -/
def withText (u : Url) (cs : List Char) : Url :=
  finish .special u.scheme u.username u.password u.host u.port cs

/-- An authority is read without a look at what follows it. -/
theorem readAuthority_special {u : Url} (h : readAuthority .special scheme cs = .ok u)
    {ds : List Char} (hds : authorityOf ds = authorityOf cs) :
    readAuthority .special scheme ds = .ok (u.withText (afterAuthority ds)) := by
  rcases huser : splitUser (authorityOf cs) with ⟨user, place⟩
  rcases hport : splitPort false place with ⟨hostText, portText⟩
  by_cases hhost : hostText = []
  · subst hhost
    rw [readAuthority_no_host huser hport] at h
    cases h
  rw [readAuthority_host huser hport hhost] at h
  cases hread : readHost hostText with
  | error fault =>
    rw [hread] at h
    cases h
  | ok host =>
    rw [hread] at h
    cases hnumber : (if portText = [] then .ok (none, [])
        else readPort scheme (portText.drop 1) : Except Fault (Option Nat × List Char)) with
    | error fault =>
      rw [hnumber] at h
      cases h
    | ok result =>
      have hmore : result.2 = [] := by
        split at hnumber
        · rw [← Except.ok.inj hnumber]
        · rcases readPort_eq_ok hnumber with hmore | ⟨c, hc, hends⟩
          · exact hmore
          · have hsub := splitUser_subset (authorityOf cs)
            have hsuffix := splitPort_suffix false place
            rw [huser] at hsub
            rw [hport] at hsuffix
            have hin := endsAuthority_of_mem (hsub (hsuffix.subset (List.mem_of_mem_drop hc)))
            rw [hin] at hends
            cases hends
      rw [readAuthority_host (hds ▸ huser) hport hhost, hread, hnumber]
      rw [hnumber] at h
      rw [← Except.ok.inj h]
      simp only [Except.bind, hmore, List.nil_append]
      rfl

end Authority

theorem readAuthority_scheme {family : Family} {scheme cs : List Char} {u : Url}
    (h : readAuthority family scheme cs = .ok u) : u.scheme = scheme := by
  unfold readAuthority at h
  simp only [bind, Except.bind, pure, Except.pure] at h
  repeat' split at h
  all_goals cases h <;> rfl

theorem readFile_scheme {cs : List Char} {u : Url} (h : readFile cs = .ok u) :
    u.scheme = "file".toList := by
  unfold readFile at h
  simp only [bind, Except.bind, pure, Except.pure] at h
  repeat' split at h
  all_goals cases h <;> rfl

/-- The schemes that a server is downloaded with. -/
def IsWeb (scheme : List Char) : Prop :=
  scheme = "http".toList ∨ scheme = "https".toList

theorem IsWeb.family {scheme : List Char} (h : IsWeb scheme) :
    Family.ofScheme scheme = .special := by
  rcases h with rfl | rfl <;> decide

theorem Family.ofScheme_eq_file {scheme : List Char} (h : Family.ofScheme scheme = .file) :
    scheme = "file".toList := by
  unfold Family.ofScheme at h
  split at h
  · assumption
  · split at h <;> cases h

variable {text : String} {u : Url}

theorem parse_of_scheme {scheme rest : List Char}
    (h : scheme? (significant text.toList) = some (scheme, rest)) (hweb : IsWeb scheme) :
    parse text = readAuthority .special scheme (rest.dropWhile (isSlash .special)) := by
  rw [parse, h]
  dsimp only
  rw [hweb.family]

theorem parse_scheme (h : parse text = .ok u) :
    ∃ rest, scheme? (significant text.toList) = some (u.scheme, rest) := by
  rw [parse] at h
  cases hread : scheme? (significant text.toList) with
  | none =>
    rw [hread] at h
    cases h
  | some split =>
    obtain ⟨scheme, rest⟩ := split
    rw [hread] at h
    dsimp only at h
    refine ⟨rest, ?_⟩
    suffices hscheme : u.scheme = scheme by rw [hscheme]
    cases hfamily : Family.ofScheme scheme with
    | file =>
      rw [hfamily] at h
      rw [readFile_scheme h, Family.ofScheme_eq_file hfamily]
    | special =>
      rw [hfamily] at h
      exact readAuthority_scheme h
    | other =>
      rw [hfamily] at h
      dsimp only at h
      split at h
      · exact readAuthority_scheme h
      · cases h
        rfl
      · cases h
        rfl

/-- A web address and the same text with more behind it are read alike, up to the text from the path
on. Slashes at the end of the address have no part in it. What is written on starts with a slash,
unless the path has started before. -/
theorem parse_append {front : List Char} {n : Nat} (h : parse text = .ok u) (hweb : IsWeb u.scheme)
    (hfront : significant text.toList = front ++ List.replicate n '/') :
    ∃ path, path <:+ front ∧ (∀ c, path.head? = some c → endsAuthority .special c = true) ∧
      ∀ written ys, significant written.toList = front ++ ys → (path = [] → IsOnward ys) →
        parse written = .ok (u.withText (path ++ ys)) := by
  have hcolon : ':' ∉ List.replicate n '/' := fun hc => by
    cases List.eq_of_mem_replicate hc
  obtain ⟨rest, hscheme⟩ := parse_scheme h
  have hread := parse_of_scheme hscheme hweb
  rw [hfront] at hscheme
  obtain ⟨more, rfl, hsuffix, hmore⟩ := scheme?_append hcolon hscheme
  -- Slashes alone are no authority: they would be left out in front of the host.
  have hauth : more.dropWhile (isSlash .special) ≠ [] := by
    intro hnil
    have hall : (List.replicate n '/').dropWhile (isSlash .special) = [] := by
      simp [isSlash]
    have huser : splitUser (authorityOf []) = (none, []) := rfl
    rw [hread, List.dropWhile_append, hnil, List.isEmpty_nil, if_pos rfl, hall,
      readAuthority_no_host huser rfl] at h
    cases h
  generalize hcore : more.dropWhile (isSlash .special) = core at hauth
  have hdrop : ∀ ys, (more ++ ys).dropWhile (isSlash .special) = core ++ ys := by
    intro ys
    rw [List.dropWhile_append, hcore, if_neg (by simpa using hauth)]
  rw [hread, hdrop] at h
  have hends : (!endsAuthority .special '/') = false := by decide
  have hsplit : ∀ ys, (afterAuthority core = [] → IsOnward ys) →
      authorityOf (core ++ ys) = authorityOf core ∧
        afterAuthority (core ++ ys) = afterAuthority core ++ ys := by
    intro ys hys
    by_cases hpath : afterAuthority core = []
    · exact takeWhile_append_onward hends core (hys hpath)
    · exact takeWhile_append_of_dropWhile hpath ys
  refine ⟨afterAuthority core, ?_, ?_, ?_⟩
  · have hrest : afterAuthority core <:+ core := List.dropWhile_suffix _
    have hcore' : core <:+ more := hcore ▸ List.dropWhile_suffix _
    exact hrest.trans (hcore'.trans hsuffix)
  · intro c hc
    have hhead := List.head?_dropWhile_not (fun c => !endsAuthority .special c) core
    rw [← afterAuthority, hc] at hhead
    simpa using hhead
  · intro written ys hwritten hys
    have hscheme' : scheme? (significant written.toList) = some (u.scheme, more ++ ys) := by
      rw [hwritten, hmore]
    have hsame : authorityOf (core ++ ys) = authorityOf (core ++ List.replicate n '/') := by
      rw [(hsplit ys hys).1, (hsplit _ fun _ => isOnward_replicate n).1]
    rw [parse_of_scheme hscheme' hweb, hdrop, readAuthority_special h hsame, (hsplit ys hys).2]

section Tail

variable {cs ys : List Char}

theorem eq_of_isTail {c : Char} (h : isTail c = true) : c = '?' ∨ c = '#' := by
  simpa [isTail] using h

/-- Where the text after the authority splits. -/
theorem tail_cases (cs : List Char) :
    (∀ c ∈ cs, isTail c = false) ∨
      ∃ front c rest, cs = front ++ c :: rest ∧ isTail c = true ∧
        ∀ d ∈ front, isTail d = false := by
  induction cs with
  | nil => exact Or.inl (by simp)
  | cons c cs ih =>
    cases hc : isTail c with
    | true => exact Or.inr ⟨[], c, cs, rfl, hc, by simp⟩
    | false =>
      rcases ih with hnone | ⟨front, d, rest, rfl, hd, hfront⟩
      · exact Or.inl (by simpa [hc] using hnone)
      · exact Or.inr ⟨c :: front, d, rest, rfl, hd, by simpa [hc] using hfront⟩

theorem withText_of_no_tail (u : Url) (h : ∀ c ∈ cs, isTail c = false) :
    u.withText cs =
      { u with path := .segments (readPath .special cs), query := none, fragment := none } := by
  have hp : ∀ c ∈ cs, (!isTail c) = true := fun c hc => by simp [h c hc]
  rw [withText, finish, List.takeWhile_eq_self_iff.2 hp, List.dropWhile_eq_nil_iff.2 hp]
  rfl

theorem withText_of_tail (u : Url) {front : List Char} {c : Char} (rest : List Char)
    (hc : isTail c = true) (hfront : ∀ d ∈ front, isTail d = false)
    (hys : ∀ d ∈ ys, isTail d = false) :
    (u.withText (front ++ c :: rest ++ ys)).path = .segments (readPath .special front) ∧
      (u.withText (front ++ c :: rest ++ ys)).query.isSome = (c == '?') ∧
      (u.withText (front ++ c :: rest ++ ys)).fragment.isSome =
        (c == '#' || rest.contains '#') := by
  have hp : ∀ d ∈ front, (!isTail d) = true := fun d hd => by simp [hfront d hd]
  have htake : (front ++ c :: rest ++ ys).takeWhile (fun d => !isTail d) = front := by
    rw [List.append_assoc, List.takeWhile_append_of_pos hp]
    simp [hc]
  have hdrop : (front ++ c :: rest ++ ys).dropWhile (fun d => !isTail d) = c :: (rest ++ ys) := by
    rw [List.append_assoc, List.dropWhile_append_of_pos hp]
    simp [hc]
  rw [withText, finish, htake, hdrop]
  refine ⟨rfl, ?_⟩
  rcases eq_of_isTail hc with rfl | rfl
  · by_cases hmark : '#' ∈ rest
    · obtain ⟨before, after, rfl, hbefore⟩ := List.eq_append_cons_of_mem hmark
      have hsplit : (before ++ '#' :: (after ++ ys)).dropWhile (· != '#') =
          '#' :: (after ++ ys) := by
        rw [List.dropWhile_append_of_pos]
        · simp
        · intro d hd
          simpa using fun heq : d = '#' => hbefore (heq ▸ hd)
      simp [readTail, hsplit]
    · have hsplit : (rest ++ ys).dropWhile (· != '#') = [] := by
        rw [List.dropWhile_eq_nil_iff]
        rintro d hd
        have hne : d ≠ '#' := by
          rintro rfl
          exact (List.mem_append.1 hd).elim hmark fun hmem => absurd (hys _ hmem) (by decide)
        simpa using hne
      simp [readTail, hsplit, hmark]
  · exact ⟨rfl, rfl⟩

theorem bare_iff {u : Url} (hu : u = u.withText (cs ++ ys)) (hys : ∀ c ∈ ys, isTail c = false) :
    u.query = none ∧ u.fragment = none ↔ ∀ c ∈ cs, isTail c = false := by
  constructor
  · rintro ⟨hquery, hfragment⟩
    rcases tail_cases cs with hnone | ⟨front, c, rest, rfl, hc, hfront⟩
    · exact hnone
    · obtain ⟨-, hisQuery, hisFragment⟩ := u.withText_of_tail rest hc hfront hys
      rw [← hu, hquery] at hisQuery
      rw [← hu, hfragment] at hisFragment
      rcases eq_of_isTail hc with rfl | rfl
      · cases hisQuery
      · cases hisFragment
  · intro hcs
    rw [u.withText_of_no_tail fun c hc => (List.mem_append.1 hc).elim (hcs c) (hys c)] at hu
    exact ⟨congrArg Url.query hu, congrArg Url.fragment hu⟩

theorem isSlash_of_head? {c : Char} (hcs : ∀ c ∈ cs, isTail c = false)
    (hhead : ∀ c, cs.head? = some c → endsAuthority .special c = true) (hc : cs.head? = some c) :
    isSlash .special c = true := by
  have htail := hcs c (List.mem_of_mem_head? hc)
  have hends := hhead c hc
  simp only [isTail, Bool.or_eq_false_iff] at htail
  simpa [endsAuthority, htail.1, htail.2] using hends

end Tail

end ServerLauncher.Url
