import ServerLauncher.Error

/-!
The chain of causes behind a failure. An error has a text of its own and may name another error as
its source, and a remark names what it was put around. An error that only passes on a failed
transport or a fault of the settings stands in the chain itself, and what it passes on does not
stand there a second time. The chain of a failure is made of all the links that are met from source
to source; remarks come in front of it and take nothing away. That an error can be asked for its
cause through all remarks, and that they are printed in front of it, is what the errors that are
passed on promise; a kit of errors that keeps these promises is lawful.
-/

namespace ServerLauncher

/-- A link of a chain of causes. -/
inductive Link where
  | acquire (error : AcquireError)
  | config (error : ConfigError)
  | transport (error : TransportError)
  | path (error : PathError)
  | address (fault : Url.Fault)
  | file (error : FileError)
  | other (text : String) (sources : List String)
  | remark (context : String) (inner : Link)
  deriving DecidableEq, Repr

namespace Link

def text : Link → String
  | acquire error => error.message
  | config error => error.message
  | transport error => error.message
  | path error => error.message
  | address fault => fault.text
  | file error => error.text
  | other text _ => text
  | remark context _ => context

/-- The source of a fault of the settings. -/
def ofSettings : ConfigError → Option Link
  | .invalidUrl _ cause => some (address cause)
  | _ => none

/-- The error that a link names as its source. What is passed on answers for the one that passes it
on. -/
def source? : Link → Option Link
  | acquire (.file _ _ cause) => some (file cause)
  | acquire (.config error) => ofSettings error
  | config error => ofSettings error
  | other _ (text :: sources) => some (other text sources)
  | remark _ inner => some inner
  | _ => none

/-- From source to source these links are met, and the last of them is the root. -/
inductive Follows : Link → List Link → Link → Prop
  | root {l : Link} : l.source? = none → Follows l [l] l
  | next {l l' r : Link} {links : List Link} :
      l.source? = some l' → Follows l' links r → Follows l (l :: links) r

/-- A link has one source at most, so there is one way from it. -/
theorem Follows.unique {l r r' : Link} {links links' : List Link} (h : Follows l links r)
    (h' : Follows l links' r') : links = links' ∧ r = r' := by
  induction h generalizing links' r' with
  | root hnone =>
    cases h' with
    | root _ => exact ⟨rfl, rfl⟩
    | next hsome _ =>
      rw [hnone] at hsome
      cases hsome
  | @next l l₁ r links hsome _ ih =>
    cases h' with
    | root hnone =>
      rw [hsome] at hnone
      cases hnone
    | next hsome' hrest =>
      rw [hsome] at hsome'
      obtain rfl := Option.some.inj hsome'
      obtain ⟨hlinks, hroot⟩ := ih hrest
      exact ⟨congrArg (l :: ·) hlinks, hroot⟩

theorem Follows.iff {l r r' : Link} {links links' : List Link} (h : Follows l links r) :
    Follows l links' r' ↔ links' = links ∧ r' = r := by
  constructor
  · intro h'
    exact h'.unique h
  · rintro ⟨rfl, rfl⟩
    exact h

theorem Follows.head {l r : Link} {links : List Link} (h : Follows l links r) :
    links.head? = some l := by
  cases h <;> rfl

end Link

def Cause.link : Cause → Link
  | acquire error => .acquire error
  | path error => .path error
  | transport error => .transport error
  | file error => .file error
  | other text sources => .other text sources

open Link

def Cause.root : Cause → Link
  | acquire (.file _ _ cause) => .file cause
  | acquire (.config (.invalidUrl _ cause)) => .address cause
  | other text sources => .other (sources.getLast?.getD text) []
  | cause => cause.link

theorem Link.follows_other (text : String) (sources : List String) :
    ∃ links, Follows (other text sources) links (other (sources.getLast?.getD text) []) ∧
      links.map Link.text = text :: sources := by
  induction sources generalizing text with
  | nil => exact ⟨_, .root rfl, rfl⟩
  | cons next sources ih =>
    obtain ⟨links, hlinks, htexts⟩ := ih next
    have hlast : (next :: sources).getLast?.getD text = sources.getLast?.getD next := by
      rw [List.getLast?_cons, Option.getD_some]
    refine ⟨other text (next :: sources) :: links, ?_, ?_⟩
    · rw [hlast]
      exact .next rfl hlinks
    · rw [List.map_cons, htexts]
      rfl

/-- From a cause there is a way to its root, and the texts of the links are those of the cause. -/
theorem Cause.follows (cause : Cause) :
    ∃ links, Follows cause.link links cause.root ∧ links.map text = cause.chain := by
  cases cause with
  | acquire error =>
    cases error with
    | file action path cause => exact ⟨_, .next rfl (.root rfl), rfl⟩
    | config error =>
      cases error with
      | invalidUrl url cause => exact ⟨_, .next rfl (.root rfl), rfl⟩
      | unsupportedScheme url => exact ⟨_, .root rfl, rfl⟩
      | emptyArtifact => exact ⟨_, .root rfl, rfl⟩
    | unsupportedPlatform os => exact ⟨_, .root rfl, rfl⟩
    | invalidTag tag reason => exact ⟨_, .root rfl, rfl⟩
    | transport error => exact ⟨_, .root rfl, rfl⟩
  | path error => exact ⟨_, .root rfl, rfl⟩
  | transport error => exact ⟨_, .root rfl, rfl⟩
  | file error => exact ⟨_, .root rfl, rfl⟩
  | other text sources => exact follows_other text sources

namespace ErrorKit

/-- What is promised of errors. One that is made of a cause has its type, shows its text, and its
chain goes from source to source. One with a remark around it is of the type of the remark, and of
every type that it is of without it. Everything in the chain is printed. -/
structure Lawful (K : ErrorKit) : Prop where
  downcast_new : ∀ cause τ, K.downcast? (K.new cause) τ = cause.as? τ
  downcast_remark : ∀ context e, K.downcast? (K.context context e) .remark = some context
  downcast_context : ∀ context e τ, τ ≠ .remark →
    K.downcast? (K.context context e) τ = K.downcast? e τ
  display_new : ∀ cause, K.display (K.new cause) = cause.link.text
  display_context : ∀ context e, K.display (K.context context e) = context
  chain_new : ∀ cause links r, Follows cause.link links r →
    K.chain (K.new cause) = links.map text
  chain_context : ∀ context e, K.chain (K.context context e) = context :: K.chain e
  print_eq : ∀ e, K.print e = ": ".intercalate (K.chain e)

theorem plain_lawful : plain.Lawful where
  downcast_new _ _ := rfl
  downcast_remark _ _ := rfl
  downcast_context _ _ τ hτ := by
    cases τ with
    | remark => exact absurd rfl hτ
    | _ => rfl
  display_new cause := by
    show cause.chain.headD "" = cause.link.text
    obtain ⟨links, hlinks, htexts⟩ := cause.follows
    rw [← htexts, List.headD_eq_head?_getD, List.head?_map, hlinks.head]
    rfl
  display_context _ _ := rfl
  chain_new cause links r h := by
    obtain ⟨links', hlinks, htexts⟩ := cause.follows
    obtain ⟨rfl, -⟩ := h.unique hlinks
    exact htexts.symm
  chain_context _ _ := rfl
  print_eq _ := rfl

variable {K : ErrorKit}

theorem Lawful.chain_cause (hK : K.Lawful) (cause : Cause) :
    K.chain (K.new cause) = cause.chain := by
  obtain ⟨links, hlinks, htexts⟩ := cause.follows
  rw [hK.chain_new cause links _ hlinks, htexts]

theorem Lawful.downcast_wrap (hK : K.Lawful) {τ : ErrorType} (hτ : τ ≠ .remark) (e : K.Error)
    (contexts : List String) : K.downcast? (K.wrap e contexts) τ = K.downcast? e τ := by
  induction contexts generalizing e with
  | nil => rfl
  | cons context rest ih => exact (ih (K.context context e)).trans (hK.downcast_context _ _ _ hτ)

theorem Lawful.exitCode_wrap (hK : K.Lawful) (e : K.Error) (contexts : List String) :
    K.exitCode (K.wrap e contexts) = K.exitCode e := by
  unfold exitCode
  rw [hK.downcast_wrap (by decide), hK.downcast_wrap (by decide)]

theorem Lawful.chain_wrap (hK : K.Lawful) (e : K.Error) (contexts : List String) :
    K.chain (K.wrap e contexts) = contexts.reverse ++ K.chain e := by
  induction contexts generalizing e with
  | nil => rfl
  | cons context rest ih =>
    have hinner : K.chain (K.wrap (K.context context e) rest) =
        rest.reverse ++ K.chain (K.context context e) := ih (K.context context e)
    rw [hK.chain_context] at hinner
    rw [List.reverse_cons, List.append_assoc]
    exact hinner

theorem Lawful.display_wrap (hK : K.Lawful) (e : K.Error) (contexts : List String) :
    K.display (K.wrap e contexts) = contexts.getLast?.getD (K.display e) := by
  induction contexts generalizing e with
  | nil => rfl
  | cons context rest ih =>
    have hinner : K.display (K.wrap (K.context context e) rest) =
        rest.getLast?.getD (K.display (K.context context e)) := ih (K.context context e)
    rw [hK.display_context] at hinner
    rw [List.getLast?_cons, Option.getD_some]
    exact hinner

theorem Lawful.exitCode_new (hK : K.Lawful) (cause : Cause) :
    K.exitCode (K.new cause) = match cause with
      | .acquire error => error.exitCode
      | .path _ => 78
      | _ => 1 := by
  unfold exitCode
  rw [hK.downcast_new, hK.downcast_new]
  cases cause <;> rfl

/-- Remarks around an error leave its code, and its chain behind them. The last remark is shown
first, and what is printed are all the remarks from the last one to the first, then the chain of the
error itself. That goes from source to source: a failed file operation and an address that cannot be
read are told twice, by the error and by its source; a failed transport and any other fault of the
settings once. -/
theorem cause_told_through_remarks (K : ErrorKit) (hK : K.Lawful) (contexts : List String) :
    (∀ e : K.Error,
      K.exitCode (K.wrap e contexts) = K.exitCode e ∧
        K.display (K.wrap e contexts) = contexts.getLast?.getD (K.display e) ∧
        K.print (K.wrap e contexts) = ": ".intercalate (contexts.reverse ++ K.chain e)) ∧
      ∀ cause : Cause,
        K.exitCode (K.wrap (K.new cause) contexts) = (match cause with
          | .acquire (.invalidTag ..) => 64
          | .acquire (.unsupportedPlatform _) => 69
          | .acquire (.file ..) => 74
          | .acquire (.transport _) => 75
          | .acquire (.config _) => 78
          | .path _ => 78
          | .transport _ => 1
          | .file _ => 1
          | .other _ _ => 1) ∧
        K.display (K.wrap (K.new cause) contexts) = contexts.getLast?.getD cause.link.text ∧
        (∃ own root, (∀ links r, Follows cause.link links r ↔ links = own ∧ r = root) ∧
          K.print (K.wrap (K.new cause) contexts) =
            ": ".intercalate (contexts.reverse ++ own.map text)) ∧
        K.print (K.wrap (K.new cause) contexts) = ": ".intercalate (contexts.reverse ++
          match cause with
          | .acquire (.file action place e) =>
            ["Failed to " ++ action ++ " " ++ place ++ ": " ++ e.text, e.text]
          | .acquire (.config (.invalidUrl url e)) =>
            ["Invalid release URL '" ++ url ++ "': " ++ e.text, e.text]
          | .acquire (.config e) => [e.message]
          | .acquire (.transport e) => [e.message]
          | .acquire e => [e.message]
          | .path e => [e.message]
          | .transport e => [e.message]
          | .file e => [e.text]
          | .other s sources => s :: sources) := by
  have hprint : ∀ e : K.Error, K.print (K.wrap e contexts) =
      ": ".intercalate (contexts.reverse ++ K.chain e) := by
    intro e
    rw [hK.print_eq, hK.chain_wrap]
  refine ⟨?_, fun cause => ⟨?_, ?_, ?_, ?_⟩⟩
  · intro e
    exact ⟨hK.exitCode_wrap e contexts, hK.display_wrap e contexts, hprint e⟩
  · rw [hK.exitCode_wrap, hK.exitCode_new]
    cases cause with
    | acquire error => cases error <;> rfl
    | _ => rfl
  · rw [hK.display_wrap, hK.display_new]
  · obtain ⟨own, hown, -⟩ := cause.follows
    refine ⟨own, cause.root, ?_, ?_⟩
    · intro links r
      exact hown.iff
    rw [hprint, hK.chain_new cause own _ hown]
  · rw [hprint, hK.chain_cause]
    cases cause with
    | acquire error =>
      cases error with
      | config error => cases error <;> rfl
      | _ => rfl
    | _ => rfl

/-- Two remarks around a failed file operation. -/
theorem failed_file_told_through_remarks :
    plain.Lawful ∧
      plain.exitCode (plain.wrap (plain.new (.acquire (.file "write to" "a/b" (.os .denied))))
        ["inner", "outer"]) = 74 ∧
      plain.print (plain.wrap (plain.new (.acquire (.file "write to" "a/b" (.os .denied))))
        ["inner", "outer"]) =
          "outer: inner: Failed to write to a/b: Permission denied (os error 13): " ++
            "Permission denied (os error 13)" := by
  obtain ⟨-, htold⟩ := cause_told_through_remarks plain plain_lawful ["inner", "outer"]
  obtain ⟨hcode, -, -, hprint⟩ := htold (.acquire (.file "write to" "a/b" (.os .denied)))
  exact ⟨plain_lawful, hcode, hprint.trans (by decide +kernel)⟩

end ErrorKit

namespace Failure

def link : Failure → Link
  | bare cause => cause.link
  | within context inner => .remark context inner.link

def cause : Failure → Cause
  | bare cause => cause
  | within _ inner => inner.cause

/-- The chain of a failure is made of the links from it, and they lead to the root of its cause. -/
theorem follows (f : Failure) :
    ∃ links, Follows f.link links f.cause.root ∧ links.map text = f.chain := by
  induction f with
  | bare cause => exact cause.follows
  | within context inner ih =>
    obtain ⟨links, hlinks, htexts⟩ := ih
    refine ⟨_, .next rfl hlinks, ?_⟩
    show context :: links.map text = context :: inner.chain
    rw [htexts]

theorem root_eq {f : Failure} {links : List Link} {r : Link} (h : Follows f.link links r) :
    r = f.cause.root := by
  obtain ⟨links', hroot, -⟩ := f.follows
  exact (h.unique hroot).2

variable {K : ErrorKit}

theorem exitCode_build (hK : K.Lawful) (f : Failure) :
    K.exitCode (f.build K) = K.exitCode (K.new f.cause) := by
  induction f with
  | bare cause => rfl
  | within context inner ih => exact (hK.exitCode_wrap (inner.build K) [context]).trans ih

theorem chain_build (hK : K.Lawful) (f : Failure) : K.chain (f.build K) = f.chain := by
  induction f with
  | bare cause => exact hK.chain_cause cause
  | within context inner ih =>
    have hcontext : K.chain ((within context inner).build K) = context :: K.chain (inner.build K) :=
      hK.chain_context context (inner.build K)
    rw [hcontext, ih]
    rfl

theorem print_build (hK : K.Lawful) (f : Failure) :
    K.print (f.build K) = ": ".intercalate f.chain := by
  rw [hK.print_eq, chain_build hK]

end Failure

end ServerLauncher
