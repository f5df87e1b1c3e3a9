import ServiceStubs.Codec
import ServiceStubs.CommandLine
import ServiceStubs.Document
import ServiceStubs.Json
import ServiceStubs.Output
import ServiceStubs.Toml
import ServiceStubs.Yaml.Tree
/-!
The surroundings of the program where it is given no others: its tools, which
are `cat`, `tr`, `printf`, and `sh` for short scripts, and the readers of its
documents. Nothing else depends on how they work.
-/

namespace ServiceStubs

namespace Tools

def fail (status : Nat) (message : String) : ToolResult :=
  { status, complaint := Text.bytes (message ++ "\n") }

-- A dash names the input, and no other file is there.
def concatenate (input : List UInt8) : List String → ToolResult
  | [] => {}
  | "-" :: rest =>
      let later := concatenate [] rest
      { later with output := input ++ later.output }
  | file :: rest =>
      let failed := fail 1 ("cat: " ++ file ++ ": No such file or directory")
      let later := concatenate input rest
      { failed with output := later.output, complaint := failed.complaint ++ later.complaint }

def shortEscapes : List (Char × UInt8) :=
  [('a', 7), ('b', 8), ('f', 12), ('n', 10), ('r', 13), ('t', 9), ('v', 11), ('\\', 92)]

def escape (hexadecimal : Bool) : List Char → List UInt8 × List Char
  | [] => ([92], [])
  | c :: rest =>
      match shortEscapes.lookup c with
      | some byte => ([byte], rest)
      | none =>
          let base := if hexadecimal && c == 'x' then 16 else 8
          let (digits, after) :=
            if base == 16 then (rest.take 2, rest) else ((c :: rest).take 3, c :: rest)
          let digits := digits.takeWhile fun digit => (Natural.digit? base digit).isSome
          match Natural.digits? base digits with
          | some value => ([.ofNat value], after.drop digits.length)
          | none => (92 :: Text.bytes (String.singleton c), rest)

section Format
variable (hexadecimal : Bool)

def writeFormat : Nat → List Char → List String → Option (List UInt8 × List String)
  | 0, _, arguments => some ([], arguments)
  | _, [], arguments => some ([], arguments)
  | steps + 1, c :: rest, arguments =>
      let (piece?, after, left) :=
        match c, rest with
        | '%', '%' :: after => (some [37], after, arguments)
        | '%', 's' :: after =>
            (some (Text.bytes (arguments.headD "")), after, arguments.drop 1)
        | '%', 'd' :: after =>
            let number := Natural.digits? 10 (arguments.headD "0").toList
            (number.map fun value => Text.bytes (toString value), after, arguments.drop 1)
        | '%', _ => (none, rest, arguments)
        | '\\', _ =>
            let (bytes, after) := escape hexadecimal rest
            (some bytes, after, arguments)
        | _, _ => (some (Text.bytes (String.singleton c)), rest, arguments)
      match piece? with
      | none => none
      | some piece =>
          (writeFormat steps after left).map fun (written, unused) => (piece ++ written, unused)

-- The format is used again as long as it takes arguments and some are left.
def writeRounds (format : List Char) : Nat → List String → Option (List UInt8)
  | 0, _ => some []
  | rounds + 1, arguments =>
      match writeFormat hexadecimal (format.length + 1) format arguments with
      | none => none
      | some (written, left) =>
          if left.isEmpty || left.length == arguments.length then some written
          else (writeRounds format rounds left).map (written ++ ·)

def printf : List String → ToolResult
  | [] => fail 1 "printf: missing operand"
  | format :: arguments =>
      match writeRounds hexadecimal format.toList (arguments.length + 1) arguments with
      | some output => { output }
      | none => fail 1 ("printf: " ++ format ++ ": invalid format")

end Format

def echo (arguments : List String) : ToolResult :=
  let (texts, lineEnd) : List String × List UInt8 :=
    match arguments with
    | "-n" :: rest => (rest, [])
    | _ => (arguments, [10])
  let text := (String.intercalate " " texts).replace "%" "%%"
  let written := writeFormat false (text.length + 1) text.toList []
  { output := (written.map (·.1)).getD [] ++ lineEnd }

def byteRange (first last : Nat) : List UInt8 :=
  (List.range (last + 1 - first)).map fun n => .ofNat (first + n)

def byteClasses : List (String × List UInt8) :=
  [("lower", byteRange 97 122), ("upper", byteRange 65 90), ("digit", byteRange 48 57),
   ("alpha", byteRange 65 90 ++ byteRange 97 122), ("space", byteRange 9 13 ++ [32])]

def byteSet : Nat → List Char → List UInt8
  | 0, _ => []
  | _, [] => []
  | steps + 1, '[' :: ':' :: rest =>
      let name := rest.takeWhile (· != ':')
      match byteClasses.lookup (String.ofList name), rest.drop name.length with
      | some found, ':' :: ']' :: after => found ++ byteSet steps after
      | _, _ => 91 :: byteSet steps (':' :: rest)
  | steps + 1, '\\' :: rest =>
      let (bytes, after) := escape false rest
      bytes ++ byteSet steps after
  | steps + 1, first :: '-' :: last :: rest =>
      byteRange first.toNat last.toNat ++ byteSet steps rest
  | steps + 1, c :: rest => Text.bytes (String.singleton c) ++ byteSet steps rest

-- The last byte of the new set stands for all that have no partner, and of equal bytes in the old
-- one the last counts.
def partner (old new : List UInt8) (byte : UInt8) : UInt8 :=
  let filled := new ++ List.replicate (old.length - new.length) (new.getLast?.getD byte)
  ((old.zip filled).reverse.lookup byte).getD byte

def squeeze (set : List UInt8) : Option UInt8 → List UInt8 → List UInt8
  | _, [] => []
  | before, byte :: rest =>
      if before == some byte && set.contains byte then squeeze set before rest
      else byte :: squeeze set (some byte) rest

def translate (arguments : List String) (input : List UInt8) : ToolResult :=
  let set (text : String) := byteSet (text.length + 1) text.toList
  match arguments with
  | ["-d", old] => { output := input.filter (!(set old).contains ·) }
  | ["-s", old] => { output := squeeze (set old) none input }
  | [old, new] => { output := input.map (partner (set old) (set new)) }
  | _ => fail 1 "tr: missing operand\nTry 'tr --help' for more information."

def plainTool : Launcher := fun program arguments input =>
  match program with
  | "cat" => some (concatenate input (if arguments.isEmpty then ["-"] else arguments))
  | "tr" => some (translate arguments input)
  | "true" => some {}
  | "false" => some { status := 1 }
  | "printf" => some (printf true arguments)
  | _ => none

namespace Shell

inductive Quoting
  | bare
  | single
  | double

inductive Token
  | word (text : String)
  | sequence
  | andThen
  | orElse
  | pipe
  -- A stream goes to the file named by the next word.
  | send (stream : Nat)
  -- A stream goes where the one named by the next word goes.
  | join (stream : Nat)
deriving DecidableEq

def scriptId : String := "1"

def close (word : Option String) (tail : List Token) : List Token :=
  (word.map Token.word).toList ++ tail

-- A redirection is for the output, unless the number of a stream stands right before it.
def redirect (token : Nat → Token) : Option String → List Token → List Token
  | some "1", tail => token 1 :: tail
  | some "2", tail => token 2 :: tail
  | word, tail => close word (token 1 :: tail)

/-- The tokens of a script in the middle of a word, unless a quote is left open. -/
def tokens : Quoting → Option String → List Char → Option (List Token)
  | .bare, word, [] => some (close word [])
  | _, _, [] => none
  | .single, word, c :: rest =>
      if c = '\'' then tokens .bare word rest
      else tokens .single (some (word.getD "" ++ String.singleton c)) rest
  | quoting, word, '$' :: '$' :: rest =>
      tokens quoting (some (word.getD "" ++ scriptId)) rest
  | .double, word, '\\' :: c :: rest =>
      let kept := if "\"\\$".toList.contains c then String.singleton c else "\\" ++ String.singleton c
      tokens .double (some (word.getD "" ++ kept)) rest
  | .double, word, c :: rest =>
      if c = '"' then tokens .bare word rest
      else tokens .double (some (word.getD "" ++ String.singleton c)) rest
  | .bare, word, '\\' :: c :: rest =>
      tokens .bare (some (word.getD "" ++ String.singleton c)) rest
  | .bare, word, '&' :: '&' :: rest =>
      (tokens .bare none rest).map fun tail => close word (.andThen :: tail)
  | .bare, word, '|' :: '|' :: rest =>
      (tokens .bare none rest).map fun tail => close word (.orElse :: tail)
  | .bare, word, '>' :: '&' :: rest => (tokens .bare none rest).map (redirect .join word)
  | .bare, word, c :: rest =>
      if c = '>' then (tokens .bare none rest).map (redirect .send word)
      else if c = '|' then (tokens .bare none rest).map fun tail => close word (.pipe :: tail)
      else if c = ';' || c = '\n' then
        (tokens .bare none rest).map fun tail => close word (.sequence :: tail)
      else if c = ' ' || c = '\t' then (tokens .bare none rest).map (close word)
      else if c = '\'' then tokens .single (some (word.getD "")) rest
      else if c = '"' then tokens .double (some (word.getD "")) rest
      else tokens .bare (some (word.getD "" ++ String.singleton c)) rest

inductive Target
  | output
  | complaint
  | nowhere
deriving DecidableEq

structure Simple where
  words : List String := []
  output : Target := .output
  complaint : Target := .complaint

def Simple.send (simple : Simple) (stream : Nat) (target : Target) : Simple :=
  if stream = 1 then { simple with output := target } else { simple with complaint := target }

def Simple.ofTokens? : List Token → Simple → Option Simple
  | [], simple => some simple
  | .word text :: rest, simple => ofTokens? rest { simple with words := simple.words ++ [text] }
  | .join stream :: .word "1" :: rest, simple => ofTokens? rest (simple.send stream simple.output)
  | .join stream :: .word "2" :: rest, simple =>
      ofTokens? rest (simple.send stream simple.complaint)
  | .send stream :: .word "/dev/null" :: rest, simple =>
      ofTokens? rest (simple.send stream .nowhere)
  | _, _ => none

structure Effect where
  result : ToolResult := {}
  left : List UInt8
  ends : Bool := false

def signal? (text : String) : Option Nat :=
  match Natural.digits? 10 text.toList with
  | some number => some number
  | none => (ToolResult.signalNames.find? (·.2 == text)).map (·.1)

-- A script can send a signal to nobody but itself.
def kill (arguments : List String) : Option Nat :=
  match arguments with
  | ["-s", name, "1"] => signal? name
  | [option, "1"] => if option.startsWith "-" then signal? (option.drop 1).toString else none
  | ["1"] => some 15
  | _ => none

def command (input : List UInt8) : List String → Effect
  | [] => { left := input }
  | "exit" :: arguments =>
      let status := (arguments.head?.bind fun text => Natural.digits? 10 text.toList).getD 0
      { result := { status := status % 256 }, left := input, ends := true }
  | "kill" :: arguments =>
      match kill arguments with
      | some signal => { result := { signal? := some signal }, left := input, ends := true }
      | none => { result := fail 1 "sh: 1: kill: No such process", left := input }
  | "echo" :: arguments => { result := echo arguments, left := input }
  | "printf" :: arguments => { result := printf false arguments, left := input }
  | program :: arguments =>
      match plainTool program arguments input with
      | some result => { result, left := [] }
      | none => { result := fail 127 ("sh: 1: " ++ program ++ ": not found"), left := input }

def runSimple (input : List UInt8) (tokens : List Token) : Effect :=
  match Simple.ofTokens? tokens {} with
  | none => { result := fail 2 "sh: 1: Syntax error", left := input, ends := true }
  | some simple =>
      let effect := command input simple.words
      let part (target : Target) :=
        (if simple.output = target then effect.result.output else [])
          ++ (if simple.complaint = target then effect.result.complaint else [])
      { effect with
        result := { effect.result with output := part .output, complaint := part .complaint } }

-- Only the first command of a pipe reads the input of the script, and none ends it.
def runPipe (input : List UInt8) : List (List Token) → Effect
  | [] => { left := input }
  | [tokens] => runSimple input tokens
  | tokens :: rest =>
      let first := runSimple input tokens
      let later := (runPipe first.result.output rest).result
      { result := { later with complaint := first.result.complaint ++ later.complaint }
        left := first.left }

def parts (separators : List Token) : Token → List Token → List (Token × List Token)
  | before, [] => [(before, [])]
  | before, token :: rest =>
      if token ∈ separators then (before, []) :: parts separators token rest
      else
        match parts separators before rest with
        | [] => [(before, [token])]
        | (_, part) :: others => (before, token :: part) :: others

def wanted (before : Token) (status : Nat) : Bool :=
  match before with
  | .andThen => status = 0
  | .orElse => status ≠ 0
  | _ => true

def runAll : List (Token × List Token) → List UInt8 → ToolResult → ToolResult
  | [], _, result => result
  | (before, tokens) :: rest, input, result =>
      if tokens.isEmpty || !wanted before result.status then runAll rest input result
      else
        let effect := runPipe input ((parts [.pipe] .pipe tokens).map (·.2))
        let reached : ToolResult :=
          { effect.result with
            output := result.output ++ effect.result.output
            complaint := result.complaint ++ effect.result.complaint }
        if effect.ends then reached else runAll rest effect.left reached

def run (script : String) (input : List UInt8) : ToolResult :=
  match tokens .bare none script.toList with
  | none => fail 2 "sh: 1: Syntax error: Unterminated quoted string"
  | some found => runAll (parts [.sequence, .andThen, .orElse] .sequence found) input {}

end Shell

def launch : Launcher := fun program arguments input =>
  match program, arguments with
  | "sh", "-c" :: script :: _ => some (Shell.run script input)
  | _, _ => plainTool program arguments input

end Tools

/-!
The readers. That of YAML knows neither directives nor tags; where these are
wanted another reader has to be given.
-/

def Manifest.Reader.own : Manifest.Reader
  | .yaml => Yaml.decode Manifest.decode
  | .json => Json.decode Manifest.decode

def Config.Reader.own : Config.Reader :=
  Toml.decode Config.decode

def Host.own : Host where
  launch := Tools.launch
  readManifest := Manifest.Reader.own
  readConfig := Config.Reader.own

end ServiceStubs
