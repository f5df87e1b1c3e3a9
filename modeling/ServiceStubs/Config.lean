import ServiceStubs.Disk
import ServiceStubs.Manifest
import ServiceStubs.Registry
/-!
The settings all services of a run share.
-/

namespace ServiceStubs

structure FormatterConfig where
  formatCommand : List String := []
  sortImportsCommand : List String := []
deriving DecidableEq, Repr, Inhabited

def FormatterConfig.isEmpty (config : FormatterConfig) : Bool :=
  config.formatCommand.isEmpty && config.sortImportsCommand.isEmpty

structure Config where
  duplicatePolicy : DuplicatePolicy := .strict
  generateSetup : Bool := false
  threads : Option Nat := none
  formatter : FormatterConfig := {}
deriving DecidableEq, Repr, Inhabited

/-!
Where the settings of a run come from: the file that is asked for, which has to
be there, or else the one beside the first manifest, or else the defaults.
-/

namespace Config

abbrev Reader := String → Except DecodeError Config

def fileName : String := "servicegen.toml"

def placeBeside (manifest : FilePath) : Option FilePath :=
  manifest.parent.map fun folder => folder.join ⟨fileName⟩

/-- Where the settings of a run may be: in the file that is asked for, or else
beside the first manifest. -/
def places (asked : Option FilePath) (manifests : List FilePath) : List FilePath :=
  match asked with
  | some path => [path]
  | none => (manifests.head?.bind placeBeside).toList

section
variable [Storage σ]

def load? (reader : Reader) (storage : σ) (path : FilePath) : Except Failure (Option Config) :=
  if Storage.contains storage path then
    match Storage.readText storage path with
    | .error problem =>
        .error { context := ["Failed to read generator config: " ++ path.text], cause := .disk problem }
    | .ok text =>
        match reader text with
        | .error problem =>
            .error { context := ["Failed to parse generator config: " ++ path.text],
                     cause := .document .toml problem }
        | .ok config => .ok (some config)
  else .ok none

def beside? (storage : σ) (manifest : FilePath) : Option FilePath :=
  (placeBeside manifest).filter (Storage.contains storage)

def resolve (reader : Reader) (storage : σ) (asked : Option FilePath) (manifests : List FilePath) :
    Except Failure Config :=
  match asked with
  | some path =>
      match load? reader storage path with
      | .error failure => .error failure
      | .ok (some config) => .ok config
      | .ok none => .error (.ofMessage ("Generator config not found: " ++ path.text))
  | none =>
      match manifests.head?.bind (beside? storage) with
      | none => .ok {}
      | some path => (load? reader storage path).map fun config => config.getD {}

end

end Config

end ServiceStubs
