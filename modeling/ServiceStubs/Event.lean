import ServiceStubs.Disk
import ServiceStubs.Document
import ServiceStubs.Manifest
import ServiceStubs.Text
/-!
What a run reports while it is going on. An event has a level, a message and
the values that belong to it.
-/

namespace ServiceStubs

inductive Level
  | error
  | warn
  | info
  | debug
  | trace
deriving DecidableEq, Repr

namespace Level

def rank : Level → Nat
  | error => 0
  | warn => 1
  | info => 2
  | debug => 3
  | trace => 4

def name : Level → String
  | error => "ERROR"
  | warn => "WARN"
  | info => "INFO"
  | debug => "DEBUG"
  | trace => "TRACE"

end Level

inductive Event
  | started (manifests : Nat) (output : FilePath) (dryRun : Bool)
  | duplicateDropped (service name : String)
  | duplicateOverruled (service name : String)
  | registered (service : String) (shapes : Nat)
  | flattened (service : String) (count : Nat)
  | definitionsReady (service : String) (manifest : FilePath) (count : Nat)
  | fileUnchanged (path : FilePath)
  | fileWritten (service : String) (path : FilePath)
  | fileRemoved (service : String) (path : FilePath)
  | upToDate (label : String)
  | generated (label : String) (files : Nat) (dryRun : Bool)
  | failed (label message : String)
  | finished (total : Nat)
  | finishedWithFailures (failures total : Nat)
  | aborted (message : String)
deriving DecidableEq, Repr

namespace Event

def level : Event → Level
  | duplicateDropped _ _ | registered _ _ | flattened _ _ | fileUnchanged _ => .debug
  | duplicateOverruled _ _ | finishedWithFailures _ _ => .warn
  | failed _ _ | aborted _ => .error
  | _ => .info

def message : Event → String
  | started _ _ _ => "starting generation"
  | duplicateDropped _ _ => "dropping identical duplicate descriptor"
  | duplicateOverruled _ _ => "descriptors with the same name differ, keeping the first one"
  | registered _ _ => "built type registry"
  | flattened _ _ => "flattened type descriptors"
  | definitionsReady _ _ _ => "flattened type definitions"
  | fileUnchanged _ => "unchanged, skipping"
  | fileWritten _ _ => "wrote file"
  | fileRemoved _ _ => "removed stale file"
  | upToDate _ => "up to date"
  | generated _ _ _ => "generated"
  | failed _ _ => "service generation failed"
  | finished _ => "generation finished"
  | finishedWithFailures _ _ => "generation finished with failures"
  | aborted _ => "servicegen failed"

def fields : Event → List (String × Node)
  | started manifests output dryRun =>
      [("manifests", .natural manifests), ("output", .text output.text), ("dry_run", .truth dryRun)]
  | duplicateDropped service name => [("service", .text service), ("name", .text name)]
  | duplicateOverruled service name => [("service", .text service), ("name", .text name)]
  | registered service shapes => [("service", .text service), ("shapes", .natural shapes)]
  | flattened service count => [("service", .text service), ("count", .natural count)]
  | definitionsReady service manifest count =>
      [("service", .text service), ("manifest", .text manifest.text), ("type_defs", .natural count)]
  | fileUnchanged path => [("path", .text path.text)]
  | fileWritten service path => [("service", .text service), ("path", .text path.text)]
  | fileRemoved service path => [("service", .text service), ("path", .text path.text)]
  | upToDate label => [("service", .text label)]
  | generated label files dryRun =>
      [("service", .text label), ("files", .natural files), ("dry_run", .truth dryRun)]
  | failed label message => [("service", .text label), ("error", .text message)]
  | finished total => [("total", .natural total)]
  | finishedWithFailures failures total =>
      [("failed", .natural failures), ("total", .natural total)]
  | aborted message => [("error", .text message)]

def isWithin (limit : Level) (event : Event) : Bool :=
  event.level.rank ≤ limit.rank

end Event

/-!
The events of putting a package together, up to the first conflict or missing
descriptor.
-/

def Registry.duplicateEvent? (registry : Registry) (existing duplicate : Descriptor) :
    Option Event :=
  if existing.agrees duplicate then some (.duplicateDropped registry.service duplicate.name)
  else
    match registry.policy with
    | .strict => none
    | .firstWins => some (.duplicateOverruled registry.service duplicate.name)

def Registry.insertEvents (registry : Registry) : List Descriptor → List Event
  | [] => []
  | descriptor :: rest =>
      let event? :=
        (registry.find? descriptor.name).bind fun existing =>
          registry.duplicateEvent? existing descriptor.resolve
      match registry.insert descriptor with
      | (_, .error _) => []
      | (reached, .ok ()) => event?.toList ++ reached.insertEvents rest

def Manifest.events (manifest : Manifest) (policy : DuplicatePolicy) : List Event :=
  let outcome :=
    match manifest.toPackage policy with
    | .error _ => []
    | .ok package => [.registered manifest.service.name package.registry.descriptors.length]
  (Registry.empty manifest.service.name policy).insertEvents manifest.shapes ++ outcome

/-- Flattening a package. Every descriptor that a component refers to is taken in
as a root and found to agree with the registered one, which it is. -/
def Package.flattenEvents (package : Package) : List Event :=
  let registry := package.registry
  match Flattened.lookUpAll registry (Flattened.exposed package.components) with
  | .error _ => []
  | .ok roots =>
      let taken := roots.map fun root => .duplicateDropped registry.service root.name
      match package.extractTypeDefs with
      | .error _ => taken
      | .ok flattened => taken ++ [.flattened registry.service flattened.descriptors.length]

/-!
How events are reported. The settings come from environment variables; what
they do not say, or say in a way that is not known, has a default.
-/

inductive LogFormat
  | json
  | pretty
deriving DecidableEq, Repr

namespace LogFormat

def ofText (text : String) : LogFormat :=
  if Text.lowerCase text == "json" then json else pretty

def name : LogFormat → String
  | json => "json"
  | pretty => "pretty"

end LogFormat

def Level.ofText (text : String) : Level :=
  match Text.lowerCase text with
  | "trace" => trace
  | "debug" => debug
  | "warn" => warn
  | "error" => error
  | _ => info

structure LogConfig where
  levelName : String := "info"
  format : LogFormat := .pretty
  includeLocation : Bool := false
deriving DecidableEq, Repr

namespace LogConfig

def ofEnvironment (valueOf : String → Option String) : LogConfig :=
  { levelName := (valueOf "SERVICEGEN_LOG_LEVEL").getD "info"
    format := LogFormat.ofText ((valueOf "SERVICEGEN_LOG_FORMAT").getD "pretty")
    includeLocation :=
      match valueOf "SERVICEGEN_LOG_INCLUDE_LOCATION" with
      | some value => value == "1" || Text.lowerCase value == "true"
      | none => false }

def level (config : LogConfig) : Level :=
  Level.ofText config.levelName

def select (config : LogConfig) (events : List Event) : List Event :=
  events.filter (·.isWithin config.level)

end LogConfig

/-!
JSON text without blanks.
-/

namespace Json

def hexDigit (n : Nat) : Char :=
  Nat.digitChar n

def quotedChar (c : Char) : List Char :=
  if c == '"' then ['\\', '"']
  else if c == '\\' then ['\\', '\\']
  else if c == '\x08' then ['\\', 'b']
  else if c == '\x0c' then ['\\', 'f']
  else if c == '\n' then ['\\', 'n']
  else if c == '\r' then ['\\', 'r']
  else if c == '\t' then ['\\', 't']
  else if c.toNat < 0x20 then
    ['\\', 'u', '0', '0', hexDigit (c.toNat / 16), hexDigit (c.toNat % 16)]
  else [c]

def quoted (text : String) : String :=
  String.ofList ('"' :: text.toList.flatMap quotedChar ++ ['"'])

def printScalar : Scalar → String
  | .truth true => "true"
  | .truth false => "false"
  | .number lexeme => lexeme
  | .text value | .plain value => quoted value
  | .null | .unusable | .moment => "null"

mutual

def print : Node → String
  | .scalar value => printScalar value
  | .list [] _ => "[]"
  | .list (item :: rest) _ => "[" ++ print item ++ printItems rest ++ "]"
  | .table [] _ => "\x7b\x7d"
  | .table ((key, value) :: rest) _ =>
      "\x7b" ++ quoted (key.getD "") ++ ":" ++ print value ++ printEntries rest ++ "\x7d"
  | .broken => "null"

def printItems : List Node → String
  | [] => ""
  | item :: rest => "," ++ print item ++ printItems rest

def printEntries : List (Option String × Node) → String
  | [] => ""
  | (key, value) :: rest => "," ++ quoted (key.getD "") ++ ":" ++ print value ++ printEntries rest

end

end Json

/-!
Events as lines of text.
-/

namespace Event

def toNode (event : Event) : Node :=
  .ofFields
    [("level", .text event.level.name),
     ("fields", .ofFields (("message", .text event.message) :: event.fields))]

def fieldText : Node → String
  | .scalar (.text value) => value
  | node => Json.print node

def prettyLine (event : Event) : String :=
  event.level.name ++ " " ++ event.message
    ++ String.join (event.fields.map fun (name, value) => " " ++ name ++ "=" ++ fieldText value)

def line (event : Event) : LogFormat → String
  | .json => Json.print event.toNode
  | .pretty => event.prettyLine

end Event

def LogConfig.lines (config : LogConfig) (events : List Event) : List String :=
  (config.select events).map (·.line config.format)

end ServiceStubs
