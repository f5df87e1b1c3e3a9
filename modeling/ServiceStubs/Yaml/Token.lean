import ServiceStubs.Document
/-!
The characters of a YAML text with their places. A line feed, a carriage return
and the two in sequence are one break each, shown as a line feed; only a line
feed puts the next character at the start of a line. The text ends before its
first NUL, and a NUL stands at the end.
-/

namespace ServiceStubs.Yaml

structure Spot where
  char : Char
  index : Nat
  line : Nat
  column : Nat
deriving Inhabited, Repr

def spotsFrom (index line column : Nat) : List Char → List Spot
  | [] => [⟨'\x00', index, line, column⟩]
  | '\r' :: '\n' :: rest => ⟨'\n', index, line, column⟩ :: spotsFrom (index + 2) (line + 1) 0 rest
  | '\r' :: rest => ⟨'\n', index, line, column⟩ :: spotsFrom (index + 1) line (column + 1) rest
  | '\n' :: rest => ⟨'\n', index, line, column⟩ :: spotsFrom (index + 1) (line + 1) 0 rest
  | c :: rest =>
      if c = '\x00' then [⟨c, index, line, column⟩]
      else ⟨c, index, line, column⟩ :: spotsFrom (index + 1) line (column + 1) rest

def spots (text : String) : List Spot :=
  spotsFrom 0 1 0 text.toList

def isEnd (c : Char) : Bool :=
  c == '\x00'

def isBreak (c : Char) : Bool :=
  c == '\n'

def isBlank (c : Char) : Bool :=
  c == ' ' || c == '\t'

def isBreakOrEnd (c : Char) : Bool :=
  isBreak c || isEnd c

def isSpace (c : Char) : Bool :=
  isBlank c || isBreakOrEnd c

def isFlow (c : Char) : Bool :=
  c == ',' || c == '[' || c == ']' || c == '\x7b' || c == '\x7d'

def charOf : List Spot → Char
  | [] => '\x00'
  | spot :: _ => spot.char

def nextChar (spots : List Spot) : Char :=
  charOf (spots.drop 1)

def isDocumentMark (mark : Char) : List Spot → Bool
  | a :: b :: c :: rest =>
      a.column == 0 && a.char == mark && b.char == mark && c.char == mark && isSpace (charOf rest)
  | _ => false

def isDocumentLimit (spots : List Spot) : Bool :=
  isDocumentMark '-' spots || isDocumentMark '.' spots

/-!
The scalars of YAML: plain ones, quoted ones, and blocks of lines. Each reader
gives the text of the scalar and what follows it.
-/

/-- The blanks and breaks between two parts of a scalar. Blanks count up to the
first break; one break is folded into a space, and of several all but the first
are kept. -/
structure Gap where
  -- The blanks before any break, the last one first.
  blanks : List Char := []
  broken : Bool := false
  counted : Bool := false
  further : Nat := 0
deriving Inhabited

namespace Gap

def isEmpty (gap : Gap) : Bool :=
  gap.blanks.isEmpty && !gap.broken

def pushBlank (gap : Gap) (c : Char) : Gap :=
  if gap.broken then gap else { gap with blanks := c :: gap.blanks }

def pushBreak (gap : Gap) : Gap :=
  if gap.broken then { gap with further := gap.further + 1 }
  else { broken := true, counted := true }

def fold (gap : Gap) (read : List Char) : List Char :=
  if gap.broken then
    if gap.counted && gap.further == 0 then ' ' :: read
    else List.replicate gap.further '\n' ++ read
  else gap.blanks ++ read

end Gap

def endsPlain (inFlow : Bool) (spots : List Spot) : Bool :=
  let c := charOf spots
  let next := nextChar spots
  isEnd c || (c == ':' && (isSpace next || (inFlow && isFlow next))) || (inFlow && isFlow c)

/-- Reads a plain scalar that has to be indented by `indent` columns outside of
flow collections. Gives the text, last character first, whether a line ended
after it, and what follows. -/
def plain (inFlow : Bool) (indent : Int) : Gap → List Char → List Spot →
    Option (List Char × Bool × List Spot)
  | gap, read, [] => some (read, gap.broken, [])
  | gap, read, spot :: rest =>
      if isBlank spot.char then
        if gap.broken && decide ((spot.column : Int) < indent) && spot.char == '\t' then none
        else plain inFlow indent (gap.pushBlank spot.char) read rest
      else if isBreak spot.char then plain inFlow indent gap.pushBreak read rest
      else
        -- These end the scalar only behind a blank or a break.
        let outdented := !inFlow && decide ((spot.column : Int) < indent)
        let limited := outdented || isDocumentLimit (spot :: rest) || spot.char == '#'
        if (!gap.isEmpty && limited) || endsPlain inFlow (spot :: rest) then
          some (read, gap.broken, spot :: rest)
        else plain inFlow indent {} (spot.char :: gap.fold read) rest

inductive QuotedMode
  | text
  | gap (gap : Gap)
  | quote
  | escape
  | hex (missing value : Nat)

def escape? (c : Char) : Option Char :=
  if c == '0' then some '\x00'
  else if c == 'a' then some '\x07'
  else if c == 'b' then some '\x08'
  else if c == 't' || c == '\t' then some '\t'
  else if c == 'n' then some '\n'
  else if c == 'v' then some '\x0b'
  else if c == 'f' then some '\x0c'
  else if c == 'r' then some '\r'
  else if c == 'e' then some '\x1b'
  else if c == ' ' || c == '"' || c == '\'' || c == '\\' then some c
  else if c == 'N' then some '\u0085'
  else if c == '_' then some '\u00a0'
  else if c == 'L' then some '\u2028'
  else if c == 'P' then some '\u2029'
  else none

def escapeDigits? (c : Char) : Option Nat :=
  if c == 'x' then some 2
  else if c == 'u' then some 4
  else if c == 'U' then some 8
  else none

def scalarValue? (n : Nat) : Option Char :=
  if n < 0xD800 || (0xE000 ≤ n && n < 0x110000) then some (Char.ofNat n) else none

/-- What a character does to the text of a quoted scalar: the mode after it and
the text, or nothing when it ends the scalar. -/
def quotedStep (single : Bool) (c : Char) (read : List Char) : Option (QuotedMode × List Char) :=
  if isBlank c then some (.gap (Gap.pushBlank {} c), read)
  else if isBreak c then some (.gap (Gap.pushBreak {}), read)
  else if single && c == '\'' then some (.quote, read)
  else if !single && c == '\\' then some (.escape, read)
  else if !single && c == '"' then none
  else some (.text, c :: read)

def quoted (single : Bool) : QuotedMode → List Char → List Spot →
    Option (List Char × List Spot)
  | .quote, read, [] => some (read, [])
  | _, _, [] => none
  | .text, read, spot :: rest =>
      if isEnd spot.char then none
      else
        match quotedStep single spot.char read with
        | none => some (read, rest)
        | some (mode, grown) => quoted single mode grown rest
  | .gap gap, read, spot :: rest =>
      if isBlank spot.char then quoted single (.gap (gap.pushBlank spot.char)) read rest
      else if isBreak spot.char then quoted single (.gap gap.pushBreak) read rest
      else if isEnd spot.char || isDocumentLimit (spot :: rest) then none
      else
        match quotedStep single spot.char (gap.fold read) with
        | none => some (gap.fold read, rest)
        | some (mode, grown) => quoted single mode grown rest
  | .quote, read, spot :: rest =>
      if spot.char == '\'' then quoted single .text ('\'' :: read) rest
      else some (read, spot :: rest)
  | .escape, read, spot :: rest =>
      -- An escaped break joins two lines without a space.
      if isBreak spot.char then quoted single (.gap { broken := true }) read rest
      else
        match escape? spot.char, escapeDigits? spot.char with
        | some c, _ => quoted single .text (c :: read) rest
        | none, some digits => quoted single (.hex (digits - 1) 0) read rest
        | none, none => none
  | .hex missing value, read, spot :: rest =>
      match Natural.digit? 16 spot.char with
      | none => none
      | some digit =>
          let grown := value * 16 + digit
          match missing with
          | fewer + 1 => quoted single (.hex fewer grown) read rest
          | 0 =>
              match scalarValue? grown with
              | some c => quoted single .text (c :: read) rest
              | none => none

inductive Chomping
  | strip
  | clip
  | keep
deriving DecidableEq

structure BlockStyle where
  literal : Bool
  chomping : Chomping := .clip
  increment : Nat := 0
  -- The column of the collection around the block; -1 outside of all.
  parent : Int

structure Block where
  -- The text, last character first.
  read : List Char := []
  ended : Bool := false
  emptyLines : Nat := 0
  blankLine : Bool := false
  indent : Nat := 0
  widest : Nat := 0
  inLine : Bool := false

namespace Block

def settleIndent (style : BlockStyle) (block : Block) : Nat :=
  if block.indent == 0 then max (max block.widest (style.parent + 1).toNat) 1 else block.indent

def startLine (style : BlockStyle) (block : Block) (c : Char) : Block :=
  let folded := !style.literal && block.ended && !block.blankLine && !isBlank c
  let joined :=
    if folded then (if block.emptyLines == 0 then ' ' :: block.read else block.read)
    else if block.ended then '\n' :: block.read
    else block.read
  { block with
    read := List.replicate block.emptyLines '\n' ++ joined
    ended := false
    emptyLines := 0
    blankLine := isBlank c
    inLine := true }

def finish (style : BlockStyle) (block : Block) : List Char :=
  let ended := if block.ended && style.chomping != .strip then '\n' :: block.read else block.read
  if style.chomping == .keep then List.replicate block.emptyLines '\n' ++ ended else ended

end Block

def blockLines (style : BlockStyle) : Block → List Spot → Option (List Char × List Spot)
  | block, [] => some (block.finish style, [])
  | block, spot :: rest =>
      if block.inLine then
        if isEnd spot.char then some (block.finish style, spot :: rest)
        else if isBreak spot.char then
          blockLines style { block with ended := true, inLine := false } rest
        else blockLines style { block with read := spot.char :: block.read } rest
      else
        let outside := block.indent == 0 || spot.column < block.indent
        if outside && spot.char == ' ' then blockLines style block rest
        else if outside && spot.char == '\t' then none
        else
          let block := { block with widest := max block.widest spot.column }
          if isBreak spot.char then
            blockLines style { block with emptyLines := block.emptyLines + 1 } rest
          else
            -- The first line with text settles the column of all lines.
            let block := { block with indent := block.settleIndent style }
            if spot.column == block.indent && !isEnd spot.char then
              let started := block.startLine style spot.char
              blockLines style { started with read := spot.char :: started.read } rest
            else some (block.finish style, spot :: rest)

def restOfLine : Bool → List Spot → Option (List Spot)
  | _, [] => some []
  | inComment, spot :: rest =>
      if isBreak spot.char then some rest
      else if isEnd spot.char then some (spot :: rest)
      else if inComment then restOfLine true rest
      else if isBlank spot.char then restOfLine false rest
      else if spot.char == '#' then restOfLine true rest
      else none

def chomping? (c : Char) : Option Chomping :=
  if c == '+' then some .keep else if c == '-' then some .strip else none

def increment? (spots : List Spot) : Option (Nat × List Spot) :=
  match Natural.digit? 10 (charOf spots) with
  | none => some (0, spots)
  | some 0 => none
  | some digit => some (digit, spots.drop 1)

def blockHead (style : BlockStyle) (spots : List Spot) : Option (BlockStyle × List Spot) :=
  match chomping? (charOf spots) with
  | some chomping =>
      (increment? (spots.drop 1)).map fun (increment, rest) =>
        ({ style with chomping, increment }, rest)
  | none =>
      (increment? spots).map fun (increment, rest) =>
        match increment, chomping? (charOf rest) with
        | _ + 1, some chomping => ({ style with chomping, increment }, rest.drop 1)
        | _, _ => ({ style with increment }, rest)

def block (literal : Bool) (parent : Int) (spots : List Spot) : Option (List Char × List Spot) :=
  match blockHead { literal, parent } spots with
  | none => none
  | some (style, rest) =>
      match restOfLine false rest with
      | none => none
      | some lines =>
          let indent := if style.increment == 0 then 0 else (max parent 0).toNat + style.increment
          blockLines style { indent } lines

/-!
The tokens of YAML text. Blocks are found by their indentation. That something
is a key shows only at the colon behind it, so every place where a key may start
is remembered, and the tokens that open the key are put in there afterwards.
-/

inductive Token
  | documentStart
  | documentEnd
  | blockSequenceStart
  | blockMappingStart
  | blockEnd
  | blockEntry
  | flowSequenceStart
  | flowSequenceEnd
  | flowMappingStart
  | flowMappingEnd
  | flowEntry
  | key
  | value
  | recall (name : String)
  | anchor (name : String)
  | scalar (isPlain : Bool) (text : String)
deriving DecidableEq, Repr, Inhabited

structure KeyPlace where
  possible : Bool := false
  required : Bool := false
  before : Nat := 0
  index : Nat := 0
  line : Nat := 0
  column : Nat := 0
deriving Inhabited

structure Scanner where
  -- The tokens found, the last one first.
  tokens : List Token := []
  count : Nat := 0
  indent : Int := -1
  -- The columns around it, the innermost first.
  indents : List Int := []
  -- The place of a key at each flow level, the innermost first.
  keys : List KeyPlace := [{}]
  keyAllowed : Bool := true
  flow : Nat := 0
  -- Where a colon may follow a quoted scalar without a blank behind it.
  adjacent : Option Nat := none

namespace Scanner

def inFlow (scanner : Scanner) : Bool :=
  0 < scanner.flow

def push (scanner : Scanner) (token : Token) : Scanner :=
  { scanner with tokens := token :: scanner.tokens, count := scanner.count + 1 }

def insertAt (scanner : Scanner) (place : Nat) (token : Token) : Scanner :=
  let later := scanner.count - place
  { scanner with
    tokens := scanner.tokens.take later ++ token :: scanner.tokens.drop later
    count := scanner.count + 1 }

def allowKey (scanner : Scanner) (allowed : Bool) : Scanner :=
  { scanner with keyAllowed := allowed }

def dropStale (spot : Spot) : List KeyPlace → Option (List KeyPlace)
  | [] => some []
  | place :: rest =>
      let stale := place.possible && (place.line < spot.line || place.index + 1024 < spot.index)
      if stale && place.required then none
      else
        (dropStale spot rest).map fun others =>
          (if stale then { place with possible := false } else place) :: others

def dropKey (scanner : Scanner) : Option Scanner :=
  match scanner.keys with
  | [] => some scanner
  | place :: rest =>
      if place.possible && place.required then none
      else some { scanner with keys := { place with possible := false } :: rest }

def saveKey (scanner : Scanner) (spot : Spot) : Option Scanner :=
  if scanner.keyAllowed then
    let place : KeyPlace :=
      { possible := true
        required := scanner.inFlow && decide (scanner.indent = (spot.column : Int))
        before := scanner.count
        index := spot.index
        line := spot.line
        column := spot.column }
    scanner.dropKey.map fun dropped => { dropped with keys := place :: dropped.keys.drop 1 }
  else some scanner

/-- Opens a block collection when the column lies deeper than the one around it.
Its token goes after the first `place` ones. -/
def openBlock (scanner : Scanner) (column : Nat) (place : Nat) (token : Token) : Scanner :=
  if !scanner.inFlow && decide (scanner.indent < (column : Int)) then
    { scanner.insertAt place token with
      indent := column
      indents := scanner.indent :: scanner.indents }
  else scanner

def closeBlocks (column : Int) : List Int → Scanner → Scanner
  | [], scanner => scanner
  | outer :: rest, scanner =>
      if decide (column < scanner.indent) then
        closeBlocks column rest { scanner.push .blockEnd with indent := outer, indents := rest }
      else scanner

def outdent (scanner : Scanner) (column : Int) : Scanner :=
  if scanner.inFlow then scanner else closeBlocks column scanner.indents scanner

end Scanner

/-- Passes over blanks, comments and breaks. A break outside of flow collections
lets a key follow; a tab may not stand where a key could. -/
def skipToToken (inFlow : Bool) : Bool → Bool → List Spot → Bool × List Spot
  | allowed, _, [] => (allowed, [])
  | allowed, inComment, spot :: rest =>
      if isBreak spot.char then skipToToken inFlow (allowed || !inFlow) false rest
      else if isEnd spot.char then (allowed, spot :: rest)
      else if inComment then skipToToken inFlow allowed true rest
      else if spot.char == ' ' || (spot.char == '\t' && (inFlow || !allowed)) then
        skipToToken inFlow allowed false rest
      else if spot.char == '#' then skipToToken inFlow allowed true rest
      else (allowed, spot :: rest)

def isNameChar (c : Char) : Bool :=
  c.isAlphanum || c == '_' || c == '-'

def endsName (c : Char) : Bool :=
  isSpace c || ['?', ':', ',', ']', '\x7d', '%', '@', '\x60'].contains c

def flowLimit : Nat := 255

abbrev Fetched := Option (Scanner × List Spot)

namespace Scanner

def fetchDocument (scanner : Scanner) (token : Token) (spots : List Spot) : Fetched :=
  ((scanner.outdent (-1)).dropKey).map fun dropped =>
    ((dropped.allowKey false).push token, spots.drop 3)

def fetchFlowStart (scanner : Scanner) (token : Token) (spot : Spot) (rest : List Spot) : Fetched :=
  match scanner.saveKey spot with
  | none => none
  | some saved =>
      if saved.flow < flowLimit then
        let inner := { saved with keys := {} :: saved.keys, flow := saved.flow + 1 }
        some ((inner.allowKey true).push token, rest)
      else none

def fetchFlowEnd (scanner : Scanner) (token : Token) (rest : List Spot) : Fetched :=
  scanner.dropKey.map fun dropped =>
    let closed :=
      if dropped.inFlow then { dropped with keys := dropped.keys.drop 1, flow := dropped.flow - 1 }
      else dropped
    ((closed.allowKey false).push token, rest)

def fetchFlowEntry (scanner : Scanner) (rest : List Spot) : Fetched :=
  scanner.dropKey.map fun dropped => ((dropped.allowKey true).push .flowEntry, rest)

def fetchBlockEntry (scanner : Scanner) (spot : Spot) (rest : List Spot) : Fetched :=
  if scanner.inFlow || !scanner.keyAllowed then none
  else
    (scanner.openBlock spot.column scanner.count .blockSequenceStart).dropKey.map fun dropped =>
      ((dropped.allowKey true).push .blockEntry, rest)

def fetchKey (scanner : Scanner) (spot : Spot) (rest : List Spot) : Fetched :=
  if !scanner.inFlow && !scanner.keyAllowed then none
  else
    (scanner.openBlock spot.column scanner.count .blockMappingStart).dropKey.map fun dropped =>
      ((dropped.allowKey (!scanner.inFlow)).push .key, rest)

def fetchValue (scanner : Scanner) (spot : Spot) (rest : List Spot) : Fetched :=
  let place := scanner.keys.headD {}
  if place.possible then
    -- The colon shows that a key started earlier, perhaps with a new mapping.
    let keyed := scanner.insertAt place.before .key
    let opened := keyed.openBlock place.column place.before .blockMappingStart
    let cleared := { opened with keys := { place with possible := false } :: opened.keys.drop 1 }
    some ((cleared.allowKey false).push .value, rest)
  else if !scanner.inFlow && !scanner.keyAllowed then none
  else
    -- The key was left out or stands behind a question mark.
    let opened := scanner.openBlock spot.column scanner.count .blockMappingStart
    some ((opened.allowKey (!scanner.inFlow)).push .value, rest)

def fetchName (scanner : Scanner) (token : String → Token) (spot : Spot) (rest : List Spot) :
    Fetched :=
  match scanner.saveKey spot with
  | none => none
  | some saved =>
      let name := rest.takeWhile (isNameChar ·.char)
      let after := rest.drop name.length
      if name.isEmpty || !endsName (charOf after) then none
      else
        some ((saved.allowKey false).push (token (String.ofList (name.map (·.char)))), after)

def fetchBlock (scanner : Scanner) (literal : Bool) (spot : Spot) (rest : List Spot) : Fetched :=
  match scanner.saveKey spot with
  | none => none
  | some saved =>
      (block literal scanner.indent rest).map fun (read, after) =>
        ((saved.allowKey true).push (.scalar false (String.ofList read.reverse)), after)

def fetchQuoted (scanner : Scanner) (single : Bool) (spot : Spot) (rest : List Spot) : Fetched :=
  match scanner.saveKey spot with
  | none => none
  | some saved =>
      (quoted single .text [] rest).map fun (read, after) =>
        -- A colon right behind the closing quote needs no blank in a flow collection.
        let ended := { saved with adjacent := after.head?.map Spot.index }
        ((ended.allowKey false).push (.scalar false (String.ofList read.reverse)), after)

def fetchPlain (scanner : Scanner) (spots : List Spot) (spot : Spot) : Fetched :=
  match scanner.saveKey spot with
  | none => none
  | some saved =>
      (plain scanner.inFlow (scanner.indent + 1) {} [] spots).map fun (read, ended, after) =>
        ((saved.allowKey ended).push (.scalar true (String.ofList read.reverse)), after)

def fetch (scanner : Scanner) : List Spot → Fetched
  | [] => none
  | spot :: rest =>
      let spots := spot :: rest
      let c := spot.char
      let next := charOf rest
      -- Directives and tags are no part of the documents read here.
      if spot.column == 0 && c == '%' then none
      else if isDocumentMark '-' spots then scanner.fetchDocument .documentStart spots
      else if isDocumentMark '.' spots then scanner.fetchDocument .documentEnd spots
      else if c == '[' then scanner.fetchFlowStart .flowSequenceStart spot rest
      else if c == '\x7b' then scanner.fetchFlowStart .flowMappingStart spot rest
      else if c == ']' then scanner.fetchFlowEnd .flowSequenceEnd rest
      else if c == '\x7d' then scanner.fetchFlowEnd .flowMappingEnd rest
      else if c == ',' then scanner.fetchFlowEntry rest
      else if c == '-' && isSpace next then scanner.fetchBlockEntry spot rest
      else if c == '?' && isSpace next then scanner.fetchKey spot rest
      else if c == ':' && (isSpace next ||
          (scanner.inFlow && (isFlow next || scanner.adjacent == some spot.index))) then
        scanner.fetchValue spot rest
      else if c == '*' then scanner.fetchName .recall spot rest
      else if c == '&' then scanner.fetchName .anchor spot rest
      else if c == '!' then none
      else if c == '|' && !scanner.inFlow then scanner.fetchBlock true spot rest
      else if c == '>' && !scanner.inFlow then scanner.fetchBlock false spot rest
      else if c == '\'' then scanner.fetchQuoted true spot rest
      else if c == '"' then scanner.fetchQuoted false spot rest
      else if c == '%' || c == '@' || c == '\x60' then none
      else scanner.fetchPlain spots spot

def run : Nat → Scanner → List Spot → Option (List Token)
  | 0, _, _ => none
  | steps + 1, scanner, spots =>
      let (allowed, found) := skipToToken scanner.inFlow scanner.keyAllowed false spots
      match found with
      | [] => none
      | spot :: _ =>
          match dropStale spot scanner.keys with
          | none => none
          | some keys =>
              let placed := { scanner with keyAllowed := allowed, keys }.outdent spot.column
              if isEnd spot.char then
                -- The end of the text closes every block.
                (placed.outdent (-1)).dropKey.map (·.tokens.reverse)
              else
                match placed.fetch found with
                | none => none
                | some (next, rest) => run steps next rest

end Scanner

/-- The tokens of a text, unless it is no YAML. Every token takes at least one
character, which bounds their number. -/
def tokens (text : String) : Option (List Token) :=
  let spots := spots text
  Scanner.run spots.length {} spots

end ServiceStubs.Yaml
