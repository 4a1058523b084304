import ServerLauncher.Text.Category

/-!
Texts and bytes. Blanks are those of the Unicode standard. Bytes are read as UTF-8 in two ways: a
strict reading fails on any fault, a loose one puts a replacement character in the place of each
longest piece that starts a character and breaks off. In quotes, what cannot be seen or would end
the quotes is written as an escape.
-/

namespace ServerLauncher

abbrev Bytes := List UInt8

def Bytes.ofText (s : String) : Bytes := s.toList.flatMap String.utf8EncodeChar

namespace Text

/-- The characters with the White_Space property. -/
def isBlank (c : Char) : Bool :=
  let n := c.toNat
  (9 ≤ n && n ≤ 13) || n == 0x20 || n == 0x85 || n == 0xA0 || n == 0x1680 ||
    (0x2000 ≤ n && n ≤ 0x200A) || n == 0x2028 || n == 0x2029 || n == 0x202F ||
    n == 0x205F || n == 0x3000

/-- The characters of general category Cc. -/
def isControl (c : Char) : Bool :=
  let n := c.toNat
  n ≤ 0x1F || (0x7F ≤ n && n ≤ 0x9F)

/-- The characters without the blanks at both ends. -/
def trimChars (cs : List Char) : List Char :=
  ((cs.dropWhile isBlank).reverse.dropWhile isBlank).reverse

def trim (s : String) : String :=
  String.ofList (trimChars s.toList)

/-- Upper-case ASCII letters become lower-case, all else stays. -/
def lowerAscii (s : String) : String :=
  String.ofList (s.toList.map Char.toLower)

def strict? (bytes : Bytes) : Option String :=
  String.fromUTF8? ⟨bytes.toArray⟩

/-- The number of bytes that follow a first byte, and the range of the first of them. -/
def sequenceShape? (b : UInt8) : Option (Nat × UInt8 × UInt8) :=
  if b < 0x80 then some (0, 0, 0)
  else if 0xC2 ≤ b && b ≤ 0xDF then some (1, 0x80, 0xBF)
  else if b == 0xE0 then some (2, 0xA0, 0xBF)
  else if b == 0xED then some (2, 0x80, 0x9F)
  else if 0xE1 ≤ b && b ≤ 0xEF then some (2, 0x80, 0xBF)
  else if b == 0xF0 then some (3, 0x90, 0xBF)
  else if b == 0xF4 then some (3, 0x80, 0x8F)
  else if 0xF1 ≤ b && b ≤ 0xF3 then some (3, 0x80, 0xBF)
  else none

/-- The longest run of at most `n` bytes in range that goes on a character. -/
def continuation : Nat → UInt8 → UInt8 → Bytes → Bytes
  | n + 1, low, high, b :: rest =>
    if low ≤ b && b ≤ high then b :: continuation n 0x80 0xBF rest else []
  | _, _, _, _ => []

def replacement : Char := '\uFFFD'

def looseWithin : Nat → Bytes → List Char
  | 0, _ => []
  | _, [] => []
  | n + 1, b :: rest =>
    match sequenceShape? b with
    | none => replacement :: looseWithin n rest
    | some (count, low, high) =>
      let more := continuation count low high rest
      let first := b.toNat % (if count = 0 then 128 else 1 <<< (6 - count))
      let c :=
        if more.length = count then
          Char.ofNat (more.foldl (fun v b => 64 * v + b.toNat % 64) first)
        else replacement
      c :: looseWithin n (rest.drop more.length)

/-- The text of any bytes. -/
def loose (bytes : Bytes) : String :=
  String.ofList (looseWithin bytes.length bytes)

def escapeCode (c : Char) : List Char :=
  "\\u\x7b".toList ++ Nat.toDigits 16 c.toNat ++ ['\x7d']

def escapeChar (c : Char) : List Char :=
  if c == '\x00' then ['\\', '0']
  else if c == '\t' then ['\\', 't']
  else if c == '\n' then ['\\', 'n']
  else if c == '\r' then ['\\', 'r']
  else if c == '\\' || c == '\x22' || c == '\x27' then ['\\', c]
  else if 0x20 ≤ c.toNat && c.toNat < 0x7F then [c]
  else if isOther c || isSeparator c || isExtending c then escapeCode c
  else [c]

def quoted (s : String) : String :=
  String.ofList ('\x22' :: s.toList.flatMap escapeChar ++ ['\x22'])

/-- A character of a JSON string. Only quotes, backslashes and controls below the blank are escaped.
-/
def jsonChar (c : Char) : List Char :=
  if c == '\x22' || c == '\\' then ['\\', c]
  else if c == '\x08' then ['\\', 'b']
  else if c == '\x0C' then ['\\', 'f']
  else if c == '\n' then ['\\', 'n']
  else if c == '\r' then ['\\', 'r']
  else if c == '\t' then ['\\', 't']
  else if c.toNat < 0x20 then
    ['\\', 'u', '0', '0', (c.toNat / 16).digitChar, (c.toNat % 16).digitChar]
  else [c]

def json (s : String) : String :=
  String.ofList ('\x22' :: s.toList.flatMap jsonChar ++ ['\x22'])

end Text

end ServerLauncher
