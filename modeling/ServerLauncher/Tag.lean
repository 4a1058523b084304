import ServerLauncher.Text.Basic

/-!
Release tags. A tag stands in a file name and in a web address as it is, so a text that would
change the meaning of either is refused, with the first fault in a fixed order.
-/

namespace ServerLauncher

inductive TagFault where
  | empty
  | doubleDot
  | separator
  | fileName
  | address
  deriving DecidableEq, Repr

namespace TagFault

def text : TagFault → String
  | empty => "tag cannot be empty"
  | doubleDot => "tag cannot contain '..'"
  | separator => "tag cannot contain path separators"
  | fileName => "tag contains characters that are not allowed in file names"
  | address => "tag contains characters that are not URL-safe"

end TagFault

namespace Tag

/-- Two dots in a row somewhere. -/
def hasDoubleDot : List Char → Bool
  | a :: b :: rest => (a == '.' && b == '.') || hasDoubleDot (b :: rest)
  | _ => false

def isSeparator (c : Char) : Bool :=
  c == '/' || c == '\\'

/-- Refused in file names by some host. -/
def isFileNameBreaker (c : Char) : Bool :=
  c == ':' || c == '<' || c == '>' || c == '\x22' || c == '|' || c == '*'

/-- Blank, control, or with a meaning of its own in a web address. -/
def isAddressBreaker (c : Char) : Bool :=
  Text.isBlank c || Text.isControl c || c == '?' || c == '#' || c == '%'

/-- The first fault of a text, if it has one. -/
def fault? (cs : List Char) : Option TagFault :=
  if cs.isEmpty then some .empty
  else if hasDoubleDot cs then some .doubleDot
  else if cs.any isSeparator then some .separator
  else if cs.any isFileNameBreaker then some .fileName
  else if cs.any isAddressBreaker then some .address
  else none

end Tag

structure Tag where
  text : String
  faultless : Tag.fault? text.toList = none

namespace Tag

/-- Accepts exactly the texts without faults, unchanged. -/
def ofText (text : String) : Except TagFault Tag :=
  match h : fault? text.toList with
  | none => .ok ⟨text, h⟩
  | some fault => .error fault

theorem ofText_eq_error_iff {text : String} {fault : TagFault} :
    ofText text = .error fault ↔ fault? text.toList = some fault := by
  unfold ofText
  split
  · rename_i h
    simp [h]
  · rename_i h
    simp [h]

theorem passes (tag : Tag) :
    tag.text.toList ≠ [] ∧ hasDoubleDot tag.text.toList = false ∧
      ∀ c ∈ tag.text.toList,
        isSeparator c = false ∧ isFileNameBreaker c = false ∧ isAddressBreaker c = false := by
  have h := tag.faultless
  unfold fault? at h
  split at h
  · cases h
  rename_i hempty
  split at h
  · cases h
  rename_i hdots
  split at h
  · cases h
  rename_i hseparator
  split at h
  · cases h
  rename_i hname
  split at h
  · cases h
  rename_i haddress
  refine ⟨by simpa using hempty, by simpa using hdots, fun c hc => ⟨?_, ?_, ?_⟩⟩
  · simpa using fun hbad => hseparator (List.any_eq_true.2 ⟨c, hc, hbad⟩)
  · simpa using fun hbad => hname (List.any_eq_true.2 ⟨c, hc, hbad⟩)
  · simpa using fun hbad => haddress (List.any_eq_true.2 ⟨c, hc, hbad⟩)

end Tag

end ServerLauncher
