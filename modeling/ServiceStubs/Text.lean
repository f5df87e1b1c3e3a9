import ServiceStubs.Text.Printable
/-!
White space, and text without the white space at its ends.
-/

namespace ServiceStubs.Text

def isBlank (c : Char) : Bool :=
  let n := c.toNat
  (0x9 ≤ n && n ≤ 0xD) || n == 0x20 || n == 0x85 || n == 0xA0 || n == 0x1680 ||
  (0x2000 ≤ n && n ≤ 0x200A) || n == 0x2028 || n == 0x2029 || n == 0x202F ||
  n == 0x205F || n == 0x3000

def trimEnd : List Char → List Char
  | [] => []
  | c :: rest =>
      match trimEnd rest with
      | [] => if isBlank c then [] else [c]
      | kept => c :: kept

def trimStart (cs : List Char) : List Char :=
  cs.dropWhile isBlank

def trim (text : String) : String :=
  String.ofList (trimEnd (trimStart text.toList))

def isEmptyOrBlank (text : String) : Bool :=
  text.toList.all isBlank

/-!
The lines of a text. A line ends at a line feed, and a carriage return right
before that line feed belongs to the line's end. What follows the last line
feed is a line of its own unless it is empty.
-/

def lines : List Char → List (List Char)
  | [] => []
  | '\n' :: rest => [] :: lines rest
  | '\r' :: '\n' :: rest => [] :: lines rest
  | c :: rest =>
      match lines rest with
      | [] => [[c]]
      | line :: others => (c :: line) :: others

def joinLines : List (List Char) → List Char
  | [] => []
  | [line] => line
  | line :: others => line ++ '\n' :: joinLines others

/-!
Text moved one level to the right. Empty lines stay empty.
-/

def indentation : List Char :=
  [' ', ' ', ' ', ' ']

def indentLine (line : List Char) : List Char :=
  if line.isEmpty then [] else indentation ++ line

def indent (text : String) : String :=
  String.ofList (joinLines ((lines text.toList).map indentLine))

def docstringBlock (docstring : String) : String :=
  indent ("\"\"\"\n" ++ trim docstring ++ "\n\"\"\"")

/-!
Text as every generated file is written: no blanks at the end of a line, and
one line feed at the end of a text that is not empty.
-/

def normalizedLines (cs : List Char) : List Char :=
  trimEnd (joinLines ((lines cs).map trimEnd))

def normalize (text : String) : String :=
  match normalizedLines text.toList with
  | [] => ""
  | kept => String.ofList (kept ++ ['\n'])

/-!
The pieces of a text between separator characters. There is always one piece
more than there are separators.
-/

def split (separator : Char) : List Char → List (List Char)
  | [] => [[]]
  | c :: rest =>
      if c = separator then [] :: split separator rest
      else
        match split separator rest with
        | [] => [[c]]
        | piece :: others => (c :: piece) :: others

/-!
Replacement of every occurrence of a pattern, found from the left without
overlap.
-/

/-- `skip` characters still belong to the occurrence found last. -/
def replaceFrom (pattern replacement : List Char) : Nat → List Char → List Char
  | _, [] => []
  | skip + 1, _ :: rest => replaceFrom pattern replacement skip rest
  | 0, c :: rest =>
      if pattern.isPrefixOf (c :: rest) then
        replacement ++ replaceFrom pattern replacement (pattern.length - 1) rest
      else
        c :: replaceFrom pattern replacement 0 rest

def replace (pattern replacement text : String) : String :=
  String.ofList (replaceFrom pattern.toList replacement.toList 0 text.toList)

/-!
Quoted text: a text between double quotes, every character that could end it or
that cannot be seen written as an escape.
-/

def quotedChar (c : Char) : List Char :=
  if c = '\x00' then ['\\', '0']
  else if c = '\t' then ['\\', 't']
  else if c = '\r' then ['\\', 'r']
  else if c = '\n' then ['\\', 'n']
  else if c = '"' then ['\\', '"']
  else if c = '\\' then ['\\', '\\']
  else if extendsGrapheme c || !isPrintable c then
    ['\\', 'u', '\x7b'] ++ Nat.toDigits 16 c.toNat ++ ['\x7d']
  else [c]

def quoted (text : String) : String :=
  String.ofList ('"' :: text.toList.flatMap quotedChar ++ ['"'])

/-!
Lower case of the ASCII letters, for words that are known beforehand. No other
character turns into one of the letters of the words this is used for.
-/

def lowerCase (text : String) : String :=
  String.ofList (text.toList.map Char.toLower)

/-!
Text as bytes. Bytes that are no text are read as replacement characters, one
for each longest start of a character that breaks off.
-/

def bytes (text : String) : List UInt8 :=
  text.toUTF8.toList

def ofBytes? (values : List UInt8) : Option String :=
  String.fromUTF8? ⟨values.toArray⟩

structure Partial where
  missing : Nat
  value : Nat
  low : Nat
  high : Nat

def startByte (byte : UInt8) : Char ⊕ Option Partial :=
  let n := byte.toNat
  if n < 0x80 then .inl (Char.ofNat n)
  else if 0xC2 ≤ n && n ≤ 0xDF then .inr (some ⟨1, n - 0xC0, 0x80, 0xBF⟩)
  else if n == 0xE0 then .inr (some ⟨2, 0, 0xA0, 0xBF⟩)
  else if n == 0xED then .inr (some ⟨2, 0xD, 0x80, 0x9F⟩)
  else if 0xE1 ≤ n && n ≤ 0xEF then .inr (some ⟨2, n - 0xE0, 0x80, 0xBF⟩)
  else if n == 0xF0 then .inr (some ⟨3, 0, 0x90, 0xBF⟩)
  else if n == 0xF4 then .inr (some ⟨3, 4, 0x80, 0x8F⟩)
  else if 0xF1 ≤ n && n ≤ 0xF3 then .inr (some ⟨3, n - 0xF0, 0x80, 0xBF⟩)
  else .inr none

def replacement : Char := '\ufffd'

def readBytes : Option Partial → List UInt8 → List Char
  | none, [] => []
  | some _, [] => [replacement]
  | none, byte :: rest =>
      match startByte byte with
      | .inl c => c :: readBytes none rest
      | .inr none => replacement :: readBytes none rest
      | .inr (some started) => readBytes (some started) rest
  | some started, byte :: rest =>
      let n := byte.toNat
      if started.low ≤ n && n ≤ started.high then
        let value := started.value * 0x40 + (n - 0x80)
        if started.missing == 1 then Char.ofNat value :: readBytes none rest
        else readBytes (some ⟨started.missing - 1, value, 0x80, 0xBF⟩) rest
      else
        match startByte byte with
        | .inl c => replacement :: c :: readBytes none rest
        | .inr none => replacement :: replacement :: readBytes none rest
        | .inr (some next) => replacement :: readBytes (some next) rest

def ofBytesLossy (values : List UInt8) : String :=
  String.ofList (readBytes none values)

structure Garble where
  index : Nat
  -- How many bytes cannot belong to a character; unknown if the bytes end within a character.
  length? : Option Nat
deriving DecidableEq, Repr

def Garble.message (garble : Garble) : String :=
  match garble.length? with
  | some length =>
      "invalid utf-8 sequence of " ++ toString length ++ " bytes from index " ++ toString garble.index
  | none => "incomplete utf-8 byte sequence from index " ++ toString garble.index

/-- The first place at which bytes are no text. `index` is where the character
starts of which `seen` bytes have been read. -/
def findGarble (index seen : Nat) : Option Partial → List UInt8 → Option Garble
  | none, [] => none
  | some _, [] => some ⟨index, none⟩
  | none, byte :: rest =>
      match startByte byte with
      | .inl _ => findGarble (index + 1) 0 none rest
      | .inr none => some ⟨index, some 1⟩
      | .inr (some started) => findGarble index 1 (some started) rest
  | some started, byte :: rest =>
      let n := byte.toNat
      if started.low ≤ n && n ≤ started.high then
        if started.missing == 1 then findGarble (index + seen + 1) 0 none rest
        else findGarble index (seen + 1) (some ⟨started.missing - 1, 0, 0x80, 0xBF⟩) rest
      else some ⟨index, some seen⟩

def decodeBytes (values : List UInt8) : Except Garble String :=
  match ofBytes? values with
  | some text => .ok text
  | none => .error ((findGarble 0 0 none values).getD ⟨0, none⟩)

end ServiceStubs.Text
