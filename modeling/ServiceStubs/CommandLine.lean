import ServiceStubs.Codec
import ServiceStubs.Config
import ServiceStubs.Disk
import ServiceStubs.Generate
import ServiceStubs.Package
import ServiceStubs.Text
/-!
What the program says about its own use.
-/

namespace ServiceStubs

namespace CommandLine

def helpLines : List String :=
  ["Service stub package generator",
   "",
   "Usage:",
   "  servicegen generate --manifest <FILE>... --output <DIR> [options]",
   "  servicegen inspect --manifest <FILE> [--config <FILE>]",
   "  servicegen help [COMMAND]",
   "",
   "Options of generate:",
   "  -m, --manifest <FILE>...  service manifests, YAML or JSON",
   "  -o, --output <DIR>        output directory",
   "      --setup               also generate setup.py and README.md",
   "      --dry-run             list the files that would change without writing them",
   "      --config <FILE>       generator configuration",
   "      --threads <N>         worker threads",
   "  -h, --help                print help"]

/-!
Reading options off a command line. Arguments are taken from left to right; the
first that makes no sense, or asks for help, decides. An option has its value
attached to it, or is followed by it as an argument of its own.
-/

inductive Refusal
  | usage
  | help
deriving DecidableEq, Repr

inductive OptionKind (α : Type)
  | help
  | flag (set : α → Option α)
  | value (several : Bool) (add : String → α → Option α)

structure CommandOption (α : Type) where
  long : String
  short? : Option Char := none
  kind : OptionKind α

def helpOption : CommandOption α :=
  { long := "help", short? := some 'h', kind := .help }

structure Awaiting (α : Type) where
  several : Bool
  add : String → α → Option α
  given : Bool := false

structure Progress (α : Type) where
  asked : α
  awaiting? : Option (Awaiting α) := none

namespace Progress

def settle (progress : Progress α) : Except Refusal α :=
  match progress.awaiting? with
  | some { given := false, .. } => .error .usage
  | _ => .ok progress.asked

def feed (progress : Progress α) (text : String) : Except Refusal (Progress α) :=
  match progress.awaiting? with
  | none => .error .usage
  | some awaiting =>
      match awaiting.add text progress.asked with
      | none => .error .usage
      | some asked =>
          .ok { asked
                awaiting? := if awaiting.several then some { awaiting with given := true } else none }

end Progress

def OptionKind.set (kind : OptionKind α) (attached? : Option String) (asked : α) :
    Except Refusal (Progress α) :=
  match kind, attached? with
  | .help, none => .error .help
  | .help, some _ => .error .usage
  | .flag set, none =>
      match set asked with
      | some asked => .ok { asked }
      | none => .error .usage
  | .flag _, some _ => .error .usage
  | .value several add, none => .ok { asked, awaiting? := some { several, add } }
  | .value _ add, some text =>
      match add text asked with
      | some asked => .ok { asked }
      | none => .error .usage

def attachedValue? : List Char → Option String
  | [] => none
  | '=' :: rest => some (String.ofList rest)
  | rest => some (String.ofList rest)

/-- Sets the options of a group of letters. Once one takes a value, the letters
that follow are that value. -/
def setLetters (options : List (CommandOption α)) : List Char → α → Except Refusal (Progress α)
  | [], asked => .ok { asked }
  | letter :: rest, asked =>
      match options.find? (·.short? == some letter) with
      | none => .error .usage
      | some option =>
          match option.kind with
          | .help => .error .help
          | .flag set =>
              match set asked with
              | some asked => setLetters options rest asked
              | none => .error .usage
          -- The letters behind an option with a value are that value.
          | .value several add => OptionKind.set (.value several add) (attachedValue? rest) asked

def setNamed (options : List (CommandOption α)) (cs : List Char) (asked : α) :
    Except Refusal (Progress α) :=
  let name := String.ofList (cs.takeWhile (· != '='))
  let attached? :=
    match cs.dropWhile (· != '=') with
    | [] => none
    | _ :: value => some (String.ofList value)
  match options.find? (·.long == name) with
  | none => .error .usage
  | some option => option.kind.set attached? asked

def take (options : List (CommandOption α)) (progress : Progress α) (argument : String) :
    Except Refusal (Progress α) :=
  let setWith (set : α → Except Refusal (Progress α)) : Except Refusal (Progress α) :=
    match progress.settle with
    | .error refusal => .error refusal
    | .ok asked => set asked
  match argument.toList with
  | '-' :: '-' :: name => setWith (setNamed options name)
  | '-' :: letter :: letters => setWith (setLetters options (letter :: letters))
  | _ => progress.feed argument

/-- Reads all arguments. Two dashes may end them; nothing may come after. -/
def readOptions (options : List (CommandOption α)) (progress : Progress α) :
    List String → Except Refusal α
  | [] => progress.settle
  | ["--"] => progress.settle
  | argument :: rest =>
      match (if argument == "--" then .error .usage else take options progress argument) with
      | .error refusal => .error refusal
      | .ok reached => readOptions options reached rest

end CommandLine

/-!
What can be asked for on the command line: generating packages, or telling what
the package of one manifest would hold.
-/

structure GenerateRequest where
  manifests : List FilePath
  output : FilePath
  setup : Bool := false
  dryRun : Bool := false
  config : Option FilePath := none
  threads : Option Nat := none
deriving DecidableEq, Repr

structure InspectRequest where
  manifest : FilePath
  config : Option FilePath := none
deriving DecidableEq, Repr

inductive Request
  | generate (request : GenerateRequest)
  | inspect (request : InspectRequest)
deriving DecidableEq, Repr

namespace CommandLine

structure Draft where
  manifests : List FilePath := []
  output : Option FilePath := none
  setup : Bool := false
  dryRun : Bool := false
  config : Option FilePath := none
  threads : Option Nat := none

def path? (text : String) : Option FilePath :=
  if text.isEmpty then none else some ⟨text⟩

def threads? (text : String) : Option Nat :=
  (Natural.signedDigits? 10 text.toList).filter (· < Config.threadBound)

def once (place : Option α) (value : Option α) : Option α :=
  if place.isSome then none else value

def configOption : CommandOption Draft :=
  { long := "config"
    kind := .value false fun text draft =>
      (once draft.config (path? text)).map fun path => { draft with config := some path } }

def generateOptions : List (CommandOption Draft) :=
  [{ long := "manifest", short? := some 'm'
     kind := .value true fun text draft =>
       (path? text).map fun path => { draft with manifests := draft.manifests ++ [path] } },
   { long := "output", short? := some 'o'
     kind := .value false fun text draft =>
       (once draft.output (path? text)).map fun path => { draft with output := some path } },
   { long := "setup"
     kind := .flag fun draft => if draft.setup then none else some { draft with setup := true } },
   { long := "dry-run"
     kind := .flag fun draft => if draft.dryRun then none else some { draft with dryRun := true } },
   configOption,
   { long := "threads"
     kind := .value false fun text draft =>
       (once draft.threads (threads? text)).map fun count =>
         { draft with threads := some count } },
   helpOption]

def inspectOptions : List (CommandOption Draft) :=
  [{ long := "manifest", short? := some 'm'
     kind := .value false fun text draft =>
       if draft.manifests.isEmpty then
         (path? text).map fun path => { draft with manifests := [path] }
       else none },
   configOption,
   helpOption]

def Draft.toGenerate (draft : Draft) : Except Refusal Request :=
  match draft.manifests, draft.output with
  | first :: rest, some output =>
      .ok (.generate
        { manifests := first :: rest, output, setup := draft.setup, dryRun := draft.dryRun,
          config := draft.config, threads := draft.threads })
  | _, _ => .error .usage

def Draft.toInspect (draft : Draft) : Except Refusal Request :=
  match draft.manifests with
  | manifest :: _ => .ok (.inspect { manifest, config := draft.config })
  | [] => .error .usage

def commandNames : List String := ["generate", "inspect", "help"]

def read : List String → Except Refusal Request
  | [] => .error .usage
  | "generate" :: rest =>
      match readOptions generateOptions { asked := {} } rest with
      | .error refusal => .error refusal
      | .ok draft => draft.toGenerate
  | "inspect" :: rest =>
      match readOptions inspectOptions { asked := {} } rest with
      | .error refusal => .error refusal
      | .ok draft => draft.toInspect
  | ["help"] => .error .help
  | ["help", topic] => .error (if topic ∈ commandNames then .help else .usage)
  | first :: _ =>
      match readOptions [helpOption] { asked := () } [first] with
      | .error refusal => .error refusal
      | .ok () => .error .usage

end CommandLine

/-!
Carrying a request out. The report is what the program prints; a request fails
as a whole only when its settings, or the manifest to look into, cannot be used.
-/

structure Host where
  launch : Launcher
  readManifest : Manifest.Reader
  readConfig : Config.Reader

structure Run (σ : Type) where
  storage : σ
  report : List String := []
  events : List Event := []
  result : Except Failure Bool

namespace Run

def text (run : Run σ) : String :=
  String.join (run.report.map (· ++ "\n"))

end Run

namespace ServiceOutcome

def report (outcome : ServiceOutcome) (dryRun : Bool) : List String :=
  match outcome.result with
  | .error failure => [outcome.label ++ ": failed: " ++ failure.message]
  | .ok paths =>
      let verb := if dryRun then "would write" else "wrote"
      (outcome.label ++ ": " ++ verb ++ " " ++ toString paths.length ++ " file(s)")
        :: paths.map fun path => "  " ++ path.text

end ServiceOutcome

namespace Package

def definitionLine (package : Package) (descriptor : Descriptor) : String :=
  match package.presentation.mode descriptor.name with
  | .direct => "  " ++ descriptor.name
  | .forwardRef => "  " ++ descriptor.name ++ " (forward reference)"

def importLines (package : Package) (module : PackageModule) : List String :=
  match package.imports module with
  | [] => []
  | records =>
      (module.stubFileName ++ ":")
        :: records.flatMap fun record =>
          (Text.lines record.render.toList).map fun line => "  " ++ String.ofList line

def report (package : Package) : List String :=
  (package.service.name ++ " (" ++ package.service.className ++ ") -> " ++ package.name)
    :: ("type definitions: " ++ toString package.typeDefs.length)
    :: package.typeDefs.map package.definitionLine
    ++ PackageModule.all.flatMap package.importLines

end Package

section
variable [Storage σ]

namespace GenerateRequest

def options (request : GenerateRequest) (config : Config) : GenerateOptions :=
  { destination := { output := request.output, withSetup := request.setup || config.generateSetup }
    dryRun := request.dryRun
    duplicatePolicy := config.duplicatePolicy }

def run (host : Host) (request : GenerateRequest) (storage : σ) : Run σ :=
  match Config.resolve host.readConfig storage request.config request.manifests with
  | .error failure => { storage, result := .error failure }
  | .ok config =>
      let producer : Producer :=
        { renderer := .ofTemplates, formatter := .ofConfig host.launch config.formatter }
      let (reached, outcomes) :=
        producer.generateAll host.readManifest (request.options config) request.manifests storage
      { storage := reached
        report := outcomes.flatMap (·.report request.dryRun)
        events := .started request.manifests.length request.output request.dryRun
          :: runEvents outcomes request.dryRun
        result := .ok (outcomes.all ServiceOutcome.succeeded) }

end GenerateRequest

namespace InspectRequest

def run (host : Host) (request : InspectRequest) (storage : σ) : Run σ :=
  match Config.resolve host.readConfig storage request.config [request.manifest] with
  | .error failure => { storage, result := .error failure }
  | .ok config =>
      match Manifest.load host.readManifest storage request.manifest with
      | .error failure => { storage, result := .error failure }
      | .ok manifest =>
          let events := manifest.buildEvents config.duplicatePolicy
          match manifest.build config.duplicatePolicy with
          | .error problem => { storage, events, result := .error { cause := .assembly problem } }
          | .ok package => { storage, report := package.report, events, result := .ok true }

end InspectRequest

namespace Request

def inputs : Request → List FilePath
  | generate request => Config.places request.config request.manifests ++ request.manifests
  | inspect request => Config.places request.config [request.manifest] ++ [request.manifest]

def outputs (host : Host) (request : Request) (storage : σ) : List FilePath :=
  match request with
  | inspect _ => []
  | generate request =>
      match Config.resolve host.readConfig storage request.config request.manifests with
      | .error _ => []
      | .ok config =>
          let options := request.options config
          request.manifests.flatMap fun path =>
            match Manifest.load host.readManifest storage path with
            | .error _ => []
            | .ok manifest =>
                match manifest.build options.duplicatePolicy with
                | .error _ => []
                | .ok package =>
                    (package.plan options.destination).map (·.path)
                      ++ package.ownedPaths options.destination

def run (host : Host) (request : Request) (storage : σ) : Run σ :=
  match request with
  | generate request => request.run host storage
  | inspect request => request.run host storage

end Request

end

namespace Run

def allEvents (run : Run σ) : List Event :=
  match run.result with
  | .ok _ => run.events
  | .error failure => run.events ++ [.aborted failure.message]

def exitCode (run : Run σ) : Nat :=
  match run.result with
  | .ok true => 0
  | _ => 1

end Run

def CommandLine.Refusal.exitCode : CommandLine.Refusal → Nat
  | usage => 2
  | help => 0

end ServiceStubs
