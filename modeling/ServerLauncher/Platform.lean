import ServerLauncher.Text.Basic

/-!
Host systems and the builds published for them. A host without a build is refused; there is no
build that stands in for it.
-/

namespace ServerLauncher

inductive HostOs where
  | linux
  | macos
  | windows
  | freebsd
  | openbsd
  | netbsd
  | dragonfly
  | solaris
  | illumos
  | android
  | ios
  | aix
  deriving DecidableEq, Repr

namespace HostOs

def all : List HostOs :=
  [linux, macos, windows, freebsd, openbsd, netbsd, dragonfly, solaris, illumos, android, ios, aix]

def name : HostOs → String
  | linux => "linux"
  | macos => "macos"
  | windows => "windows"
  | freebsd => "freebsd"
  | openbsd => "openbsd"
  | netbsd => "netbsd"
  | dragonfly => "dragonfly"
  | solaris => "solaris"
  | illumos => "illumos"
  | android => "android"
  | ios => "ios"
  | aix => "aix"

/-- Names that editors use for some hosts. -/
def aliases : List (String × HostOs) :=
  [("darwin", macos), ("win32", windows), ("sunos", solaris)]

def executableExtension : HostOs → String
  | windows => ".exe"
  | _ => ""

/-- A name or an alias, in any case of its ASCII letters and with blanks around it. -/
def ofText? (text : String) : Option HostOs :=
  let key := Text.lowerAscii (Text.trim text)
  (all.find? (·.name == key)).or ((aliases.find? (·.1 == key)).map (·.2))

/-- What is said of a text that names no host. -/
def unknownText (text : String) : String :=
  "Unknown operating system identifier: '" ++ text ++ "'"

end HostOs

inductive Variant where
  | windows
  | linux
  | macos
  deriving DecidableEq, Repr

def Variant.name : Variant → String
  | windows => "windows"
  | linux => "linux"
  | macos => "macos"

/-- A build and the ending of its file. -/
structure Build where
  variant : Variant
  extension : String
  deriving DecidableEq, Repr

def HostOs.build? (os : HostOs) : Option Build :=
  match os with
  | windows => some ⟨.windows, os.executableExtension⟩
  | linux => some ⟨.linux, os.executableExtension⟩
  | macos => some ⟨.macos, os.executableExtension⟩
  | _ => none

end ServerLauncher
