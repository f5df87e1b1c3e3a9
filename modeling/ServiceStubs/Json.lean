import ServiceStubs.Document
/-!
The tokens of JSON text: punctuation, quoted strings, and words, which are
numbers and the names of constants.
-/

namespace ServiceStubs.Json

inductive Token
  | openTable
  | closeTable
  | openList
  | closeList
  | comma
  | colon
  | word (lexeme : String)
  | text (value : String)
  | unpaired
  | bad
deriving DecidableEq, Repr, Inhabited

structure Quotation where
  -- The characters, the last one first.
  read : List Char := []
  /-- The first half of a surrogate pair, when the second has to follow. -/
  half : Option Nat := none
  unpaired : Bool := false
deriving Inhabited

namespace Quotation

def push (quotation : Quotation) (c : Char) : Quotation :=
  { read := c :: quotation.read
    unpaired := quotation.unpaired || quotation.half.isSome }

def pushUnit (quotation : Quotation) (unit : Nat) : Quotation :=
  match quotation.half with
  | some high =>
      if 0xDC00 ≤ unit && unit ≤ 0xDFFF then
        { quotation with
          read := Char.ofNat (0x10000 + (high - 0xD800) * 0x400 + (unit - 0xDC00)) :: quotation.read
          half := none }
      else { quotation with half := none, unpaired := true }
  | none =>
      if 0xD800 ≤ unit && unit ≤ 0xDBFF then { quotation with half := some unit }
      else if 0xDC00 ≤ unit && unit ≤ 0xDFFF then { quotation with unpaired := true }
      else quotation.push (Char.ofNat unit)

def token (quotation : Quotation) : Token :=
  if quotation.unpaired || quotation.half.isSome then .unpaired
  else .text (String.ofList quotation.read.reverse)

end Quotation

inductive Mode
  | between
  -- The characters of a word, the last one first.
  | word (read : List Char)
  | quoted (quotation : Quotation)
  | escape (quotation : Quotation)
  | hex (quotation : Quotation) (missing value : Nat)

def isBlank (c : Char) : Bool :=
  c == ' ' || c == '\t' || c == '\n' || c == '\r'

def punctuation? (c : Char) : Option Token :=
  if c == '\x7b' then some .openTable
  else if c == '\x7d' then some .closeTable
  else if c == '[' then some .openList
  else if c == ']' then some .closeList
  else if c == ',' then some .comma
  else if c == ':' then some .colon
  else none

def escape? (c : Char) : Option Char :=
  if c == '"' then some '"'
  else if c == '\\' then some '\\'
  else if c == '/' then some '/'
  else if c == 'b' then some '\x08'
  else if c == 'f' then some '\x0c'
  else if c == 'n' then some '\n'
  else if c == 'r' then some '\r'
  else if c == 't' then some '\t'
  else none

def isDigit (c : Char) : Bool :=
  '0' ≤ c && c ≤ '9'

def isExponent : List Char → Bool
  | [] => true
  | mark :: rest =>
      let digits :=
        match rest with
        | '+' :: after => after
        | '-' :: after => after
        | after => after
      (mark == 'e' || mark == 'E') && !digits.isEmpty && digits.all isDigit

def isFraction : List Char → Bool
  | '.' :: rest => !(rest.takeWhile isDigit).isEmpty && isExponent (rest.dropWhile isDigit)
  | rest => isExponent rest

def isMagnitude : List Char → Bool
  | '0' :: rest => isFraction rest
  | cs => !(cs.takeWhile isDigit).isEmpty && isFraction (cs.dropWhile isDigit)

def isNumber : List Char → Bool
  | '-' :: rest => isMagnitude rest
  | cs => isMagnitude cs

def wordToken (read : List Char) : Token :=
  let cs := read.reverse
  let lexeme := String.ofList cs
  if ["true", "false", "null"].contains lexeme || isNumber cs then .word lexeme else .bad

def start (c : Char) : List Token × Mode :=
  if isBlank c then ([], .between)
  else if c == '"' then ([], .quoted {})
  else
    match punctuation? c with
    | some token => ([token], .between)
    | none => ([], .word [c])

def advance (c : Char) : Mode → List Token × Mode
  | .between => start c
  | .word read =>
      if isBlank c || c == '"' || (punctuation? c).isSome then
        let (tokens, mode) := start c
        (wordToken read :: tokens, mode)
      else ([], .word (c :: read))
  | .quoted quotation =>
      if c == '"' then ([quotation.token], .between)
      else if c == '\\' then ([], .escape quotation)
      -- Control characters have to be escaped.
      else if c.toNat < 0x20 then ([.bad], .between)
      else ([], .quoted (quotation.push c))
  | .escape quotation =>
      if c == 'u' then ([], .hex quotation 3 0)
      else
        match escape? c with
        | some meant => ([], .quoted (quotation.push meant))
        | none => ([.bad], .between)
  | .hex quotation missing value =>
      match Natural.digit? 16 c with
      | none => ([.bad], .between)
      | some digit =>
          let grown := value * 16 + digit
          match missing with
          | 0 => ([], .quoted (quotation.pushUnit grown))
          | fewer + 1 => ([], .hex quotation fewer grown)

def finish : Mode → List Token
  | .between => []
  | .word read => [wordToken read]
  | _ => [.bad]

def tokens : Mode → List Char → List Token
  | mode, [] => finish mode
  | mode, c :: rest =>
      let (found, next) := advance c mode
      found ++ tokens next rest

/-!
The document a JSON text stands for. Lists and tables that are open are kept on
a stack; where the text breaks off, all of them are closed as they are.
-/

inductive Frame
  | list (items : List Node)
  -- `key` is the key whose value is due.
  | table (entries : List (Option String × Node)) (key : Option (Option String))

inductive Expect
  | value
  | valueOrClose
  | key
  | keyOrClose
  | colon
  | commaOrClose
  | nothing
deriving DecidableEq

structure Reader where
  frames : List Frame := []
  expect : Expect := .value
  root : Node := .broken

namespace Reader

def put (reader : Reader) (node : Node) : Reader :=
  match reader.frames with
  | [] => { frames := [], expect := .nothing, root := node }
  | .list items :: outer =>
      { reader with frames := .list (node :: items) :: outer, expect := .commaOrClose }
  | .table entries key :: outer =>
      { reader with
        frames := .table ((key.join, node) :: entries) none :: outer
        expect := .commaOrClose }

def awaitsValue (reader : Reader) : Bool :=
  reader.expect == .value || reader.expect == .valueOrClose

def string (reader : Reader) (key : Option String) (node : Node) : Option Reader :=
  if reader.awaitsValue then some (reader.put node)
  else if reader.expect == .key || reader.expect == .keyOrClose then
    match reader.frames with
    | .table entries _ :: outer =>
        some { reader with frames := .table entries (some key) :: outer, expect := .colon }
    | _ => none
  else none

def wordNode (lexeme : String) : Node :=
  if lexeme == "null" then .scalar .null
  else if lexeme == "true" then .truth true
  else if lexeme == "false" then .truth false
  else .scalar (.number lexeme)

def step (reader : Reader) : Token → Option Reader
  | .openTable =>
      if reader.awaitsValue then
        some { reader with frames := .table [] none :: reader.frames, expect := .keyOrClose }
      else none
  | .openList =>
      if reader.awaitsValue then
        some { reader with frames := .list [] :: reader.frames, expect := .valueOrClose }
      else none
  | .closeTable =>
      if reader.expect == .keyOrClose || reader.expect == .commaOrClose then
        match reader.frames with
        | .table entries _ :: outer =>
            some (put { reader with frames := outer } (.table entries.reverse true))
        | _ => none
      else none
  | .closeList =>
      if reader.expect == .valueOrClose || reader.expect == .commaOrClose then
        match reader.frames with
        | .list items :: outer =>
            some (put { reader with frames := outer } (.list items.reverse true))
        | _ => none
      else none
  | .comma =>
      if reader.expect == .commaOrClose then
        match reader.frames with
        | .list _ :: _ => some { reader with expect := .value }
        | .table _ _ :: _ => some { reader with expect := .key }
        | [] => none
      else none
  | .colon => if reader.expect == .colon then some { reader with expect := .value } else none
  | .word lexeme => if reader.awaitsValue then some (reader.put (wordNode lexeme)) else none
  | .text value => reader.string (some value) (.text value)
  | .unpaired => reader.string none (.scalar .unusable)
  | .bad => none

def Frame.broken (inner : Option Node) : Frame → Node
  | .list items => .list (items.reverse ++ inner.toList) false
  | .table entries none => .table entries.reverse false
  | .table entries (some key) => .table ((key, inner.getD .broken) :: entries).reverse false

def abandon : List Frame → Option Node → Node
  | [], inner => inner.getD .broken
  | frame :: outer, inner => abandon outer (some (Frame.broken inner frame))

end Reader

def read : List Token → Reader → Node × Bool
  | [], reader =>
      if reader.expect == .nothing then (reader.root, true)
      else (Reader.abandon reader.frames none, true)
  | token :: rest, reader =>
      match reader.step token with
      | some next => read rest next
      | none =>
          -- Behind the document anything is too much; within it the text breaks off.
          if reader.expect == .nothing then (reader.root, false)
          else (Reader.abandon reader.frames none, false)

def levelLimit : Nat := 127

/-- Reads a value from JSON text. What follows the document is noticed last. -/
def decode (decoder : Decoder α) (text : String) : Except DecodeError α :=
  let (node, ended) := read (tokens .between text.toList) {}
  match decoder { format := .json, levels := some levelLimit } node with
  | .error problem => .error problem
  | .ok value => if ended then .ok value else .error .invalid

end ServiceStubs.Json
