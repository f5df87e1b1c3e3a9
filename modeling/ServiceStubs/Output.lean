import ServiceStubs.Config
import ServiceStubs.Disk
import ServiceStubs.Manifest
import ServiceStubs.Package
import ServiceStubs.Stub
import ServiceStubs.Text
/-!
What is done to the text of a file before it is written: it is formatted, and
the imports of a module are sorted. Without any command formatting is to bring
the white space in order.
-/

namespace ServiceStubs

structure ToolResult where
  status : Nat := 0
  signal? : Option Nat := none
  output : List UInt8 := []
  complaint : List UInt8 := []
deriving DecidableEq, Inhabited

-- From a program, its arguments and its input; a program that does not exist has no result.
abbrev Launcher := String → List String → List UInt8 → Option ToolResult

namespace ToolResult

def succeeded (result : ToolResult) : Bool :=
  result.status == 0 && result.signal?.isNone

def signalNames : List (Nat × String) :=
  [(1, "HUP"), (2, "INT"), (9, "KILL"), (10, "USR1"), (12, "USR2"), (13, "PIPE"), (14, "ALRM"),
   (15, "TERM")]

def ending (result : ToolResult) : String :=
  match result.signal? with
  | none => "exit status: " ++ toString result.status
  | some signal =>
      let name := (signalNames.lookup signal).map fun name => " (SIG" ++ name ++ ")"
      "signal: " ++ toString signal ++ name.getD ""

end ToolResult

structure Formatter where
  format : String → FilePath → Except Failure String
  -- From the text, the module of the service and a file extension.
  sortImports : String → String → String → Except Failure String

def isCode (path : FilePath) : Bool :=
  path.extension == some "py" || path.extension == some "pyi"

namespace Formatter

def passthrough : Formatter :=
  { format := fun text _ => .ok (Text.normalize text)
    sortImports := fun text _ _ => .ok text }

def substitute (substitutions : List (String × String)) (argument : String) : String :=
  substitutions.foldl (fun text (place, value) => Text.replace place value text) argument

def pipe (launch : Launcher) (command : List String) (text : String)
    (substitutions : List (String × String)) : Except Failure String :=
  match command with
  | [] => .ok text
  | program :: arguments =>
      let result :=
        if program.toList.contains '\x00' then none
        else launch program (arguments.map (substitute substitutions)) (Text.bytes text)
      match result with
      | none =>
          .error { context := ["Failed to start formatter: " ++ program], cause := .disk .notFound }
      | some result =>
          if result.succeeded then
            match Text.decodeBytes result.output with
            | .ok formatted => .ok formatted
            | .error garble =>
                .error { context := [program ++ " produced invalid UTF-8"],
                         cause := .garbledOutput garble }
          else
            .error <| .ofMessage <|
              program ++ " failed with " ++ result.ending ++ ": "
                ++ Text.trim (Text.ofBytesLossy result.complaint)

def ofCommands (launch : Launcher) (config : FormatterConfig) : Formatter :=
  { format := fun text path =>
      let normalized := Text.normalize text
      if isCode path then pipe launch config.formatCommand normalized [("\x7bpath\x7d", path.text)]
      else .ok normalized
    sortImports := fun text module extension =>
      pipe launch config.sortImportsCommand text
        [("\x7bmodule_name\x7d", module), ("\x7bextension\x7d", extension)] }

def ofConfig (launch : Launcher) (config : FormatterConfig) : Formatter :=
  if config.isEmpty then passthrough else ofCommands launch config

end Formatter

/-!
The files a package consists of and where they go. A module is planned when the
package has what it defines; the names of all modules are the generator's own,
planned or not.
-/

namespace PackageModule

def hasStub (module : PackageModule) : Bool :=
  module ≠ dataclassDefs

def files (module : PackageModule) : List String :=
  if module.hasStub then [module.stubFileName, module.fileName] else [module.fileName]

end PackageModule

/-- Where packages are written. With setup files each package gets a folder of
its own that can be distributed. -/
structure Destination where
  output : FilePath
  withSetup : Bool := false
deriving DecidableEq, Repr

structure PlannedFile where
  path : FilePath
  template : Template
deriving DecidableEq, Repr

namespace Package

def has (package : Package) : PackageModule → Bool
  | .client => true
  | .serviceResource => package.serviceResource.isSome
  | .paginator => !package.paginators.isEmpty
  | .waiter => !package.waiters.isEmpty
  | .typeDefs | .dataclassDefs => !package.typeDefs.isEmpty

def setupFolder (package : Package) (destination : Destination) : FilePath :=
  if destination.withSetup then
    destination.output.join ⟨package.service.moduleName ++ "_package"⟩
  else destination.output

def folder (package : Package) (destination : Destination) : FilePath :=
  (package.setupFolder destination).join ⟨package.name⟩

def setupPlan (package : Package) (destination : Destination) : List PlannedFile :=
  if destination.withSetup then
    let folder := package.setupFolder destination
    [⟨folder.join ⟨"setup.py"⟩, .setup⟩, ⟨folder.join ⟨"README.md"⟩, .readme⟩]
  else []

def fixedFiles : List (String × Template) :=
  [("version.py", .version),
   ("__init__.pyi", .entryPoint),
   ("__init__.py", .entryPoint),
   ("__main__.py", .main),
   ("py.typed", .typedMarker)]

def moduleFiles (package : Package) : List (String × Template) :=
  (PackageModule.all.filter package.has).flatMap fun module =>
    module.files.map (·, .module module)

def plan (package : Package) (destination : Destination) : List PlannedFile :=
  let folder := package.folder destination
  package.setupPlan destination
    ++ (fixedFiles ++ package.moduleFiles).map fun (name, template) =>
      ⟨folder.join ⟨name⟩, template⟩

/-- Every path in the package's folder that a module of some package may be
written to. -/
def ownedPaths (package : Package) (destination : Destination) : List FilePath :=
  let folder := package.folder destination
  (PackageModule.all.flatMap fun module => module.files.reverse).map fun name =>
    folder.join ⟨name⟩

def unplannedPaths (package : Package) (destination : Destination) : List FilePath :=
  let planned := (package.plan destination).map (·.path)
  (package.ownedPaths destination).filter (· ∉ planned)

end Package

/-!
The contents of the planned files. Each file is rendered and formatted; if one
of them cannot be, there are no contents at all.
-/

abbrev Renderer := Template → Package → Except Failure String

def Renderer.ofTemplates : Renderer :=
  fun template package => .ok (template.render package)

structure RenderedFile where
  path : FilePath
  content : String
deriving DecidableEq, Repr

structure Producer where
  renderer : Renderer
  formatter : Formatter

namespace Producer

variable (producer : Producer)

def finish (package : Package) (path : FilePath) (text : String) : Except Failure String :=
  match inStep ("Failed to format " ++ path.text) (producer.formatter.format text path) with
  | .error failure => .error failure
  | .ok formatted =>
      if isCode path then
        inStep ("Failed to sort imports in " ++ path.text) <|
          producer.formatter.sortImports formatted package.service.moduleName "pyi"
      else .ok formatted

def renderFile (package : Package) (planned : PlannedFile) : Except Failure RenderedFile :=
  match producer.renderer planned.template package with
  | .error failure => .error failure
  | .ok text =>
      match producer.finish package planned.path text with
      | .error failure => .error failure
      | .ok content => .ok { path := planned.path, content }

def renderFiles (package : Package) : List PlannedFile → Except Failure (List RenderedFile)
  | [] => .ok []
  | planned :: rest =>
      match producer.renderFile package planned with
      | .error failure => .error failure
      | .ok file =>
          match renderFiles package rest with
          | .error failure => .error failure
          | .ok files => .ok (file :: files)

def render (package : Package) (destination : Destination) :
    Except Failure (List RenderedFile) :=
  producer.renderFiles package (package.plan destination)

end Producer

/-!
Writing a package. All contents are known before anything is written, so a
package that cannot be rendered leaves its files as they are. A file that
already has its content is left alone. After the last file is written, what
earlier packages left at owned paths is removed.
-/

inductive FileEvent
  | unchanged (path : FilePath)
  | wrote (path : FilePath)
  | removed (path : FilePath)
deriving DecidableEq, Repr

def FileEvent.written? : FileEvent → Option FilePath
  | .wrote path => some path
  | _ => none

/-- What a sequence of steps left behind: the events of the steps that were
done, and the failure of the step that was not. -/
structure Written (σ : Type) where
  storage : σ
  events : List FileEvent := []
  failure? : Option Failure := none

def Written.result (written : Written σ) : Except Failure (List FilePath) :=
  match written.failure? with
  | some failure => .error failure
  | none => .ok (written.events.filterMap FileEvent.written?)

section
variable [Storage σ]

def diskStep (step : String) : Except DiskError α → Except Failure α
  | .ok value => .ok value
  | .error problem => .error { context := [step], cause := .disk problem }

namespace RenderedFile

def isChanged (file : RenderedFile) (storage : σ) : Bool :=
  match Storage.readText storage file.path with
  | .ok existing => existing ≠ file.content
  | .error _ => true

def prepare (file : RenderedFile) (storage : σ) : σ × Except Failure Unit :=
  match file.path.parent with
  -- The root needs not be made.
  | none => (storage, .ok ())
  | some parent =>
      let (prepared, outcome) := Storage.makeFolders storage parent
      (prepared, diskStep ("Failed to create directory " ++ parent.text) outcome)

def write (file : RenderedFile) (storage : σ) : σ × Except Failure FileEvent :=
  if file.isChanged storage then
    match file.prepare storage with
    | (prepared, .error failure) => (prepared, .error failure)
    | (prepared, .ok ()) =>
        match diskStep ("Failed to write " ++ file.path.text)
            (Storage.writeText prepared file.path file.content) with
        | .error failure => (prepared, .error failure)
        | .ok grown => (grown, .ok (.wrote file.path))
  else (storage, .ok (.unchanged file.path))

end RenderedFile

def removeStale (path : FilePath) (storage : σ) : σ × Except Failure FileEvent :=
  match diskStep ("Failed to remove stale " ++ path.text) (Storage.removeFile storage path) with
  | .error failure => (storage, .error failure)
  | .ok shrunk => (shrunk, .ok (.removed path))

def Written.forEach (step : α → σ → σ × Except Failure FileEvent) : List α → σ → Written σ
  | [], storage => { storage }
  | item :: rest, storage =>
      match step item storage with
      | (reached, .error failure) => { storage := reached, failure? := some failure }
      | (reached, .ok event) =>
          let later := forEach step rest reached
          { later with events := event :: later.events }

namespace Package

def staleFiles (package : Package) (destination : Destination) (storage : σ) : List FilePath :=
  (package.unplannedPaths destination).filter (Storage.isFile storage)

def sweep (package : Package) (destination : Destination) (written : Written σ) : Written σ :=
  match written.failure? with
  -- What could not be written leaves the old files in place.
  | some _ => written
  | none =>
      let swept :=
        Written.forEach removeStale (package.staleFiles destination written.storage) written.storage
      { swept with events := written.events ++ swept.events }

end Package

namespace Producer

def pendingChanges (producer : Producer) (package : Package) (destination : Destination)
    (storage : σ) : Except Failure (List FilePath) :=
  match producer.render package destination with
  | .error failure => .error failure
  | .ok files => .ok ((files.filter (·.isChanged storage)).map (·.path))

def write (producer : Producer) (package : Package) (destination : Destination)
    (storage : σ) : Written σ :=
  match producer.render package destination with
  | .error failure => { storage, failure? := some failure }
  | .ok files => package.sweep destination (Written.forEach RenderedFile.write files storage)

end Producer

end

end ServiceStubs
