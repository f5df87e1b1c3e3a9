import ServiceStubs.Event
import ServiceStubs.Manifest
import ServiceStubs.Output
/-!
Generating the packages of several manifests, one after the other. A service is
the unit of failure: it either gets its whole package or is reported as failed,
and the services after it go on as if nothing had happened.
-/

namespace ServiceStubs

structure GenerateOptions where
  destination : Destination
  dryRun : Bool := false
  duplicatePolicy : DuplicatePolicy := .strict
deriving DecidableEq, Repr

structure ServiceOutcome where
  manifest : FilePath
  service? : Option String := none
  result : Except Failure (List FilePath)
  events : List Event := []

namespace ServiceOutcome

def succeeded (outcome : ServiceOutcome) : Bool :=
  outcome.result.toOption.isSome

def label (outcome : ServiceOutcome) : String :=
  outcome.service?.getD outcome.manifest.text

def summary (outcome : ServiceOutcome) (dryRun : Bool) : Event :=
  match outcome.result with
  | .error failure => .failed outcome.label failure.message
  | .ok [] => .upToDate outcome.label
  | .ok paths => .generated outcome.label paths.length dryRun

end ServiceOutcome

namespace FileEvent

def toEvent (service : String) : FileEvent → Event
  | unchanged path => .fileUnchanged path
  | wrote path => .fileWritten service path
  | removed path => .fileRemoved service path

end FileEvent

namespace Manifest

def build (manifest : Manifest) (policy : DuplicatePolicy) : Except AssemblyError Package :=
  match manifest.toPackage policy with
  | .error conflict => .error conflict
  | .ok package => package.flatten

def buildEvents (manifest : Manifest) (policy : DuplicatePolicy) : List Event :=
  manifest.events policy
    ++ match manifest.toPackage policy with
      | .error _ => []
      | .ok package => package.flattenEvents

end Manifest

section
variable [Storage σ]

def Producer.put (producer : Producer) (options : GenerateOptions) (package : Package)
    (storage : σ) : σ × Except Failure (List FilePath) × List FileEvent :=
  if options.dryRun then
    (storage, producer.pendingChanges package options.destination storage, [])
  else
    let written := producer.write package options.destination storage
    (written.storage, written.result, written.events)

def Producer.generateFrom (producer : Producer) (options : GenerateOptions) (path : FilePath)
    (manifest : Manifest) (storage : σ) : σ × ServiceOutcome :=
  let service := manifest.service.name
  let step := "Failed to generate service '" ++ service ++ "'"
  let assembly := manifest.buildEvents options.duplicatePolicy
  match manifest.build options.duplicatePolicy with
  -- Nothing has touched the storage when the package cannot be put together.
  | .error problem =>
      (storage,
       { manifest := path, service? := some service,
         result := .error { context := [step], cause := .assembly problem },
         events := assembly })
  | .ok package =>
      let (reached, result, files) := producer.put options package storage
      (reached,
       { manifest := path, service? := some service, result := inStep step result,
         events := assembly
           ++ .definitionsReady service path package.typeDefs.length
           :: files.map (FileEvent.toEvent service) })

def Producer.generateService (producer : Producer) (reader : Manifest.Reader)
    (options : GenerateOptions) (path : FilePath) (storage : σ) : σ × ServiceOutcome :=
  match Manifest.load reader storage path with
  | .error failure => (storage, { manifest := path, result := .error failure })
  | .ok manifest => producer.generateFrom options path manifest storage

def Producer.generateAll (producer : Producer) (reader : Manifest.Reader)
    (options : GenerateOptions) :
    List FilePath → σ → σ × List ServiceOutcome
  | [], storage => (storage, [])
  | path :: rest, storage =>
      let (reached, outcome) := producer.generateService reader options path storage
      let (last, outcomes) := generateAll producer reader options rest reached
      (last, outcome :: outcomes)

end

def runSummary (outcomes : List ServiceOutcome) : Event :=
  match (outcomes.filter fun outcome => !outcome.succeeded).length with
  | 0 => .finished outcomes.length
  | failed => .finishedWithFailures failed outcomes.length

def runEvents (outcomes : List ServiceOutcome) (dryRun : Bool) : List Event :=
  outcomes.flatMap (fun outcome => outcome.events ++ [outcome.summary dryRun])
    ++ [runSummary outcomes]

end ServiceStubs
