import ServiceStubs.Disk
import ServiceStubs.Document
import ServiceStubs.Package
import ServiceStubs.Text
/-!
Manifests: the description of one service from which its package is made.
-/

namespace ServiceStubs

structure Manifest where
  service : ServiceName
  /-- The directory of the package; the service's module unless given. -/
  packageName : Option String := none
  pypiName : String
  version : String := ""
  shapes : List Descriptor := []
  client : Client
  serviceResource : Option ServiceResource := none
  paginators : List Paginator := []
  waiters : List Waiter := []
  helperFunctions : List Callable := []
deriving DecidableEq, Repr, Inhabited

inductive ManifestProblem
  | emptyField (field : String)
  | namelessShape (fields : Nat)
deriving DecidableEq, Repr

def ManifestProblem.message : ManifestProblem → String
  | emptyField field => "manifest field '" ++ field ++ "' must not be empty"
  | namelessShape fields =>
      "manifest contains a shape without a name (" ++ toString fields ++ " fields)"

namespace Manifest

def directory (manifest : Manifest) : String :=
  manifest.packageName.getD manifest.service.moduleName

def essentials (manifest : Manifest) : List (String × String) :=
  [("service.name", manifest.service.name),
   ("service.class_name", manifest.service.className),
   ("service.module_name", manifest.service.moduleName),
   ("pypi_name", manifest.pypiName),
   ("client.name", manifest.client.name),
   ("client.alias_name", manifest.client.aliasName)]

/-- The first thing that is missing: an essential field, else the name of a shape. -/
def problem? (manifest : Manifest) : Option ManifestProblem :=
  match manifest.essentials.find? fun (_, value) => Text.isEmptyOrBlank value with
  | some (field, _) => some (.emptyField field)
  | none =>
      (manifest.shapes.find? fun shape => Text.isEmptyOrBlank shape.name).map fun shape =>
        .namelessShape shape.fields.length

def toPackage (manifest : Manifest) (policy : DuplicatePolicy) : Except AssemblyError Package :=
  match Registry.ofDescriptors manifest.service.name policy manifest.shapes with
  | .error conflict => .error conflict
  | .ok registry =>
      .ok { name := manifest.directory
            pypiName := manifest.pypiName
            version := manifest.version
            service := manifest.service
            client := manifest.client
            serviceResource := manifest.serviceResource
            waiters := manifest.waiters
            paginators := manifest.paginators
            helperFunctions := manifest.helperFunctions
            registry }

end Manifest

/-!
Failures with what was being done when they arose. A failure has one cause;
every step it passes through may put a text before it.
-/

def DecodeError.message : DecodeError → String
  | .missingField name => "missing field `" ++ name ++ "`"
  | .duplicateField name => "duplicate field `" ++ name ++ "`"
  | .unknownVariant name => "unknown variant `" ++ name ++ "`"
  | .invalid => "invalid"
  | .other message => message

inductive Cause
  | assembly (error : AssemblyError)
  | document (format : DocumentFormat) (error : DecodeError)
  | manifest (problem : ManifestProblem)
  | disk (error : DiskError)
  | garbledOutput (garble : Text.Garble)
  | other (message : String)
deriving DecidableEq, Repr

def Cause.message : Cause → String
  | .assembly error => error.message
  | .document _ error => error.message
  | .manifest problem => problem.message
  | .disk error => error.message
  | .garbledOutput garble => garble.message
  | .other message => message

structure Failure where
  -- What was being done, the widest step first.
  context : List String := []
  cause : Cause
deriving DecidableEq, Repr

namespace Failure

def ofMessage (message : String) : Failure :=
  { cause := .other message }

def within (step : String) (failure : Failure) : Failure :=
  { failure with context := step :: failure.context }

def message (failure : Failure) : String :=
  String.intercalate ": " (failure.context ++ [failure.cause.message])

end Failure

def inStep (step : String) : Except Failure α → Except Failure α
  | .ok value => .ok value
  | .error failure => .error (failure.within step)

/-!
Manifests read from files. How either notation is read is not said here.
-/

inductive ManifestFormat
  | yaml
  | json
deriving DecidableEq, Repr, Inhabited

namespace ManifestFormat

def ofPath (path : FilePath) : ManifestFormat :=
  match path.extension with
  | some "yaml" | some "yml" => yaml
  | _ => json

def document : ManifestFormat → DocumentFormat
  | yaml => .yaml
  | json => .json

end ManifestFormat

namespace Manifest

abbrev Reader := ManifestFormat → String → Except DecodeError Manifest

def validated (manifest : Manifest) : Except Failure Manifest :=
  match manifest.problem? with
  | some problem => .error { cause := .manifest problem }
  | none => .ok manifest

def parse (reader : Reader) (format : ManifestFormat) (text : String) : Except Failure Manifest :=
  match reader format text with
  | .error error => .error { cause := .document format.document error }
  | .ok manifest => manifest.validated

def ofFile (reader : Reader) (path : FilePath) : Except DiskError String → Except Failure Manifest
  | .error problem =>
      .error { context := ["Failed to read manifest: " ++ path.text], cause := .disk problem }
  | .ok text =>
      inStep ("Failed to parse manifest: " ++ path.text) (parse reader (.ofPath path) text)

def load [Storage σ] (reader : Reader) (storage : σ) (path : FilePath) : Except Failure Manifest :=
  ofFile reader path (Storage.readText storage path)

end Manifest

end ServiceStubs
