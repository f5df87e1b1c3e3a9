import ServiceStubs.Document
import ServiceStubs.Sorted
/-!
The strings, numbers, dates and times of TOML.
-/

namespace ServiceStubs.Toml

abbrev Read (α : Type) := Option (α × List Char)

def isBlank (c : Char) : Bool :=
  c == ' ' || c == '\t'

def isVisible (c : Char) : Bool :=
  c == '\t' || (0x20 ≤ c.toNat && c.toNat != 0x7F)

def isDigit (c : Char) : Bool :=
  '0' ≤ c && c ≤ '9'

inductive StringMode
  | text
  -- After a number of quotes in a string over several lines.
  | quotes (count : Nat)
  | escape
  | hex (missing value : Nat)
  -- After a backslash and blanks, where the line has to end.
  | lineEnd
  -- After a line that ends in a backslash; blanks and breaks are left out.
  | trimming

structure StringStyle where
  quote : Char
  multiline : Bool

def StringStyle.isLiteral (style : StringStyle) : Bool :=
  style.quote == '\''

def escape? (c : Char) : Option Char :=
  if c == 'b' then some '\x08'
  else if c == 't' then some '\t'
  else if c == 'n' then some '\n'
  else if c == 'f' then some '\x0c'
  else if c == 'r' then some '\r'
  else if c == 'e' then some '\x1b'
  else if c == '"' || c == '\\' then some c
  else none

def escapeDigits? (c : Char) : Option Nat :=
  if c == 'x' then some 2
  else if c == 'u' then some 4
  else if c == 'U' then some 8
  else none

def scalarValue? (n : Nat) : Option Char :=
  if n < 0xD800 || (0xE000 ≤ n && n < 0x110000) then some (Char.ofNat n) else none

/-- What a character does in the text of a string: the mode after it and the
text, last character first. A quote that ends a string on one line is not asked. -/
def stringStep (style : StringStyle) (c : Char) (read : List Char) :
    Option (StringMode × List Char) :=
  if c == style.quote then some (.quotes 1, read)
  else if c == '\\' && !style.isLiteral then some (.escape, read)
  else if isVisible c || (c == '\n' && style.multiline) then some (.text, c :: read)
  else none

def string (style : StringStyle) : StringMode → List Char → List Char → Read String
  | .quotes count, read, [] =>
      if count < 3 then none
      else some (String.ofList (List.replicate (count - 3) style.quote ++ read).reverse, [])
  | _, _, [] => none
  | .quotes count, read, c :: rest =>
      if c == style.quote then
        -- Of five quotes the first two belong to the text.
        if count == 4 then
          some (String.ofList (style.quote :: style.quote :: read).reverse, rest)
        else string style (.quotes (count + 1)) read rest
      else if 3 ≤ count then
        some (String.ofList (List.replicate (count - 3) style.quote ++ read).reverse, c :: rest)
      else
        match stringStep style c (List.replicate count style.quote ++ read) with
        | none => none
        | some (mode, grown) => string style mode grown rest
  | .text, read, c :: rest =>
      if c == style.quote && !style.multiline then some (String.ofList read.reverse, rest)
      else
        match stringStep style c read with
        | none => none
        | some (mode, grown) => string style mode grown rest
  | .escape, read, c :: rest =>
      match escape? c, escapeDigits? c with
      | some meant, _ => string style .text (meant :: read) rest
      | none, some digits => string style (.hex (digits - 1) 0) read rest
      | none, none =>
          -- A backslash at the end of a line joins it to the next text.
          if !style.multiline then none
          else if c == '\n' then string style .trimming read rest
          else if isBlank c then string style .lineEnd read rest
          else none
  | .hex missing value, read, c :: rest =>
      match Natural.digit? 16 c with
      | none => none
      | some digit =>
          let grown := value * 16 + digit
          match missing with
          | fewer + 1 => string style (.hex fewer grown) read rest
          | 0 =>
              match scalarValue? grown with
              | some meant => string style .text (meant :: read) rest
              | none => none
  | .lineEnd, read, c :: rest =>
      if isBlank c then string style .lineEnd read rest
      else if c == '\n' then string style .trimming read rest
      else none
  | .trimming, read, c :: rest =>
      if isBlank c || c == '\n' then string style .trimming read rest
      else
        match stringStep style c read with
        | none => none
        | some (mode, grown) => string style mode grown rest

def string? : List Char → Option (Read String)
  | '"' :: '"' :: '"' :: '\n' :: rest => some (string ⟨'"', true⟩ .text [] rest)
  | '"' :: '"' :: '"' :: rest => some (string ⟨'"', true⟩ .text [] rest)
  | '\'' :: '\'' :: '\'' :: '\n' :: rest => some (string ⟨'\'', true⟩ .text [] rest)
  | '\'' :: '\'' :: '\'' :: rest => some (string ⟨'\'', true⟩ .text [] rest)
  | '"' :: rest => some (string ⟨'"', false⟩ .text [] rest)
  | '\'' :: rest => some (string ⟨'\'', false⟩ .text [] rest)
  | _ => none

def grouped? (base : Nat) : List Char → Option (List Char)
  | [] => none
  | [c] => (Natural.digit? base c).map fun _ => [c]
  | c :: '_' :: rest => (Natural.digit? base c).bind fun _ => (grouped? base rest).map (c :: ·)
  | c :: rest => (Natural.digit? base c).bind fun _ => (grouped? base rest).map (c :: ·)

def magnitude? : List Char → Option String
  | ['0'] => some "0"
  | '0' :: _ => none
  | cs => (grouped? 10 cs).map String.ofList

def based? (base : Nat) (cs : List Char) : Option String :=
  ((grouped? base cs).bind (Natural.digits? base)).map toString

def integer? : List Char → Option String
  | '0' :: 'x' :: rest => based? 16 rest
  | '0' :: 'o' :: rest => based? 8 rest
  | '0' :: 'b' :: rest => based? 2 rest
  | '+' :: rest => magnitude? rest
  | '-' :: rest => (magnitude? rest).map fun digits => if digits == "0" then "0" else "-" ++ digits
  | cs => magnitude? cs

def withoutSign : List Char → List Char
  | '+' :: rest => rest
  | '-' :: rest => rest
  | cs => cs

def isExponent : List Char → Bool
  | mark :: rest => (mark == 'e' || mark == 'E') && (grouped? 10 (withoutSign rest)).isSome
  | [] => false

def isFloat (cs : List Char) : Bool :=
  let cs := withoutSign cs
  let isWhole c := isDigit c || c == '_'
  let isMark c := c == 'e' || c == 'E'
  if cs == ['i', 'n', 'f'] || cs == ['n', 'a', 'n'] then true
  else
    (magnitude? (cs.takeWhile isWhole)).isSome &&
      match cs.dropWhile isWhole with
      | '.' :: rest =>
          let fraction := rest.takeWhile (!isMark ·)
          let exponent := rest.dropWhile (!isMark ·)
          (grouped? 10 fraction).isSome && (exponent.isEmpty || isExponent exponent)
      | exponent => isExponent exponent

def twoDigits? : List Char → Option (Nat × List Char)
  | a :: b :: rest => (Natural.digits? 10 [a, b]).map (·, rest)
  | _ => none

def daysIn (year month : Nat) : Nat :=
  if month == 2 then
    if year % 4 == 0 && (year % 100 != 0 || year % 400 == 0) then 29 else 28
  else if month == 4 || month == 6 || month == 9 || month == 11 then 30
  else 31

def date? : List Char → Option (List Char)
  | a :: b :: c :: d :: '-' :: rest => do
      let year ← Natural.digits? 10 [a, b, c, d]
      let (month, rest) ← twoDigits? rest
      match rest with
      | '-' :: rest =>
          let (day, rest) ← twoDigits? rest
          if 1 ≤ month && month ≤ 12 && 1 ≤ day && day ≤ daysIn year month then some rest else none
      | _ => none
  | _ => none

def afterFraction : List Char → Option (List Char)
  | '.' :: rest =>
      if (rest.takeWhile isDigit).isEmpty then none else some (rest.dropWhile isDigit)
  | rest => some rest

def time? (cs : List Char) : Option (List Char) := do
  let (hour, rest) ← twoDigits? cs
  match rest with
  | ':' :: rest =>
      let (minute, rest) ← twoDigits? rest
      if 23 < hour || 59 < minute then none
      else
        match rest with
        | ':' :: rest =>
            let (second, rest) ← twoDigits? rest
            if 60 < second then none else afterFraction rest
        | _ => some rest
  | _ => none

def isOffset : List Char → Bool
  | [] | ['Z'] | ['z'] => true
  | '+' :: rest | '-' :: rest =>
      match twoDigits? rest with
      | some (hour, ':' :: rest) =>
          match twoDigits? rest with
          | some (minute, []) => hour ≤ 23 && minute ≤ 59
          | _ => false
      | _ => false
  | _ => false

def isMoment (cs : List Char) : Bool :=
  match date? cs with
  | some [] => true
  | some (mark :: rest) =>
      (mark == 'T' || mark == 't' || mark == ' ') && (time? rest).any isOffset
  | none => (time? cs).any (·.isEmpty)

def word? (cs : List Char) : Option Scalar :=
  if cs == "true".toList then some (.truth true)
  else if cs == "false".toList then some (.truth false)
  else if isMoment cs then some .moment
  else
    match integer? cs with
    | some digits => some (.number digits)
    | none => if isFloat cs then some (.number (String.ofList cs)) else none

def isWordChar (c : Char) : Bool :=
  c.isAlphanum || c == '_' || c == '-' || c == '+' || c == '.' || c == ':'

def word (cs : List Char) : Read Scalar :=
  let first := cs.takeWhile isWordChar
  let rest := cs.dropWhile isWordChar
  match date? first, rest with
  | some [], ' ' :: more =>
      let second := more.takeWhile isWordChar
      if (second.head?.map isDigit).getD false then
        (word? (first ++ ' ' :: second)).map (·, more.dropWhile isWordChar)
      else (word? first).map (·, rest)
  | _, _ => (word? first).map (·, rest)

/-!
Tables as they grow while a TOML text is read. How a table came to be decides
what may still be added to it: a name is defined once, a table with a header of
its own gets no second one, and dotted keys add only to what dotted keys made.
-/

inductive Origin
  | implied
  | header
  | dotted
deriving DecidableEq

inductive Item
  | value (node : Node)
  | table (origin : Origin) (entries : List (String × Item))
  | tables (elements : List (List (String × Item)))

abbrev Entries := List (String × Item)

def put (key : String) (item : Item) (entries : Entries) : Entries :=
  Sorted.insert (fun a b => compare a.1 b.1) (key, item) entries

def underHeader (change : Entries → Option Entries) : List String → Entries → Option Entries
  | [], entries => change entries
  | key :: path, entries =>
      match entries.lookup key with
      | none =>
          (underHeader change path []).map fun inner => put key (.table .implied inner) entries
      | some (.table origin inner) =>
          (underHeader change path inner).map fun grown => put key (.table origin grown) entries
      | some (.tables (last :: earlier)) =>
          (underHeader change path last).map fun grown =>
            put key (.tables (grown :: earlier)) entries
      | some _ => none

def openTable (key : String) (entries : Entries) : Option Entries :=
  match entries.lookup key with
  | none => some (put key (.table .header []) entries)
  | some (.table .implied inner) => some (put key (.table .header inner) entries)
  | some _ => none

def openElement (key : String) (entries : Entries) : Option Entries :=
  match entries.lookup key with
  | none => some (put key (.tables [[]]) entries)
  | some (.tables elements) => some (put key (.tables ([] :: elements)) entries)
  | some _ => none

/-- Defines a key; `inDotted` says whether the table around it is one that dotted
keys made. A dotted key has to end in such a table. -/
def define (node : Node) : Bool → Bool → List String → Entries → Option Entries
  | _, _, [], _ => none
  | inDotted, isDotted, [key], entries =>
      if isDotted && !inDotted then none
      else if (entries.lookup key).isSome then none
      else some (put key (.value node) entries)
  | _, _, key :: path, entries =>
      match entries.lookup key with
      | none => (define node true true path []).map fun inner => put key (.table .dotted inner) entries
      -- Nothing is added from outside to a table that has a header of its own.
      | some (.table .header _) => none
      | some (.table origin inner) =>
          (define node (origin == .dotted) true path inner).map fun grown =>
            put key (.table origin grown) entries
      | some _ => none

mutual

def Item.node : Item → Node
  | .value node => node
  | .table _ entries => .table (entryNodes entries) true
  | .tables elements => .list (tableNodes elements).reverse true

def entryNodes : List (String × Item) → List (Option String × Node)
  | [] => []
  | (key, item) :: rest => (some key, Item.node item) :: entryNodes rest

def tableNodes : List (List (String × Item)) → List Node
  | [] => []
  | entries :: rest => .table (entryNodes entries) true :: tableNodes rest

end

/-!
The document a TOML text stands for, its tables in the order of their keys.
-/

def withBreaks : List Char → Option (List Char)
  | [] => some []
  | '\r' :: '\n' :: rest => (withBreaks rest).map ('\n' :: ·)
  | c :: rest => if c = '\r' then none else (withBreaks rest).map (c :: ·)

def skipBlanks (cs : List Char) : List Char :=
  cs.dropWhile isBlank

def skipTrivia : Bool → List Char → Option (List Char)
  | _, [] => some []
  | inComment, c :: rest =>
      if c == '\n' then skipTrivia false rest
      else if inComment then if isVisible c then skipTrivia true rest else none
      else if isBlank c then skipTrivia false rest
      else if c == '#' then skipTrivia true rest
      else some (c :: rest)

def skipLine : Bool → List Char → Option (List Char)
  | _, [] => some []
  | inComment, c :: rest =>
      if c == '\n' then some rest
      else if inComment then if isVisible c then skipLine true rest else none
      else if isBlank c then skipLine false rest
      else if c == '#' then skipLine true rest
      else none

def isKeyChar (c : Char) : Bool :=
  c.isAlphanum || c == '_' || c == '-'

def simpleKey : List Char → Read String
  | '"' :: rest => string ⟨'"', false⟩ .text [] rest
  | '\'' :: rest => string ⟨'\'', false⟩ .text [] rest
  | cs =>
      let key := cs.takeWhile isKeyChar
      if key.isEmpty then none else some (String.ofList key, cs.dropWhile isKeyChar)

def keyPath : Nat → List Char → Read (List String)
  | 0, _ => none
  | steps + 1, cs =>
      match simpleKey (skipBlanks cs) with
      | none => none
      | some (key, rest) =>
          match skipBlanks rest with
          | '.' :: more => (keyPath steps more).map fun (path, after) => (key :: path, after)
          | after => some ([key], after)

def depthLimit : Nat := 80

mutual

def value : Nat → Nat → List Char → Read Node
  | 0, _, _ => none
  | steps + 1, depth, cs =>
      match string? cs with
      | some read => read.map fun (text, rest) => (.text text, rest)
      | none =>
          match cs, depth with
          | '[' :: rest, depth + 1 => items steps depth [] rest
          | '\x7b' :: rest, depth + 1 => fields steps depth [] rest
          | _, _ => (word cs).map fun (scalar, rest) => (.scalar scalar, rest)

def items : Nat → Nat → List Node → List Char → Read Node
  | 0, _, _, _ => none
  | steps + 1, depth, read, cs =>
      match skipTrivia false cs with
      | none => none
      | some (']' :: rest) => some (.list read.reverse true, rest)
      | some start =>
          match value steps depth start with
          | none => none
          | some (item, rest) =>
              match skipTrivia false rest with
              | some (',' :: more) => items steps depth (item :: read) more
              | some (']' :: more) => some (.list (item :: read).reverse true, more)
              | _ => none

def fields : Nat → Nat → Entries → List Char → Read Node
  | 0, _, _, _ => none
  | steps + 1, depth, entries, cs =>
      match skipTrivia false cs with
      | none => none
      | some ('\x7d' :: rest) => some ((Item.table .header entries).node, rest)
      | some start =>
          match assignment steps depth start with
          | none => none
          | some ((path, node), rest) =>
              match define node false false path entries, skipTrivia false rest with
              | some grown, some (',' :: more) => fields steps depth grown more
              | some grown, some ('\x7d' :: more) => some ((Item.table .header grown).node, more)
              | _, _ => none

def assignment : Nat → Nat → List Char → Read (List String × Node)
  | 0, _, _ => none
  | steps + 1, depth, cs =>
      match keyPath (steps + 1) cs with
      | some (path, '=' :: rest) =>
          (value steps depth (skipBlanks rest)).map fun (node, after) => ((path, node), after)
      | _ => none

end

structure Draft where
  root : Entries := []
  path : List String := []

def Draft.enter (draft : Draft) (path : List String)
    (openLast : String → Entries → Option Entries) : Option Draft :=
  match path.getLast? with
  | none => none
  | some last =>
      (underHeader (openLast last) path.dropLast draft.root).map fun root => { root, path }

def statement (steps : Nat) (draft : Draft) : List Char → Read Draft
  | '[' :: '[' :: rest =>
      match keyPath steps rest with
      | some (path, ']' :: ']' :: after) =>
          match draft.enter path openElement, skipLine false after with
          | some next, some rest => some (next, rest)
          | _, _ => none
      | _ => none
  | '[' :: rest =>
      match keyPath steps rest with
      | some (path, ']' :: after) =>
          match draft.enter path openTable, skipLine false after with
          | some next, some rest => some (next, rest)
          | _, _ => none
      | _ => none
  | cs =>
      match assignment steps depthLimit cs with
      | none => none
      | some ((path, node), after) =>
          match underHeader (define node false false path) draft.path draft.root,
            skipLine false after with
          | some root, some rest => some ({ draft with root }, rest)
          | _, _ => none

/-- Reads all statements. Each takes at least one character, which bounds their
number; `size` bounds the steps within one. -/
def statements (size : Nat) : Nat → Draft → List Char → Option Draft
  | 0, _, _ => none
  | steps + 1, draft, cs =>
      match skipTrivia false cs with
      | none => none
      | some [] => some draft
      | some start =>
          match statement size draft start with
          | none => none
          | some (next, rest) => statements size steps next rest

def withoutMark : List Char → List Char
  | '\ufeff' :: rest => rest
  | cs => cs

def document (text : String) : Option Node :=
  match withBreaks (withoutMark text.toList) with
  | none => none
  | some cs =>
      (statements (2 * cs.length + 4) (cs.length + 1) {} cs).map fun found =>
        (Item.table .header found.root).node

def decode (decoder : Decoder α) (text : String) : Except DecodeError α :=
  match document text with
  | none => .error .invalid
  | some node => decoder { format := .toml } node

end ServiceStubs.Toml
