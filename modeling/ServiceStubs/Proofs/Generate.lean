import ServiceStubs.Generate
import ServiceStubs.Proofs.Write
/-!
When generating a service leaves everything as it was. Whatever stands in the
way of a package before its first file is written makes the service fail with
the storage untouched, in any storage, and a dry run never touches it. Only an
operation on a file can fail later.
-/

namespace ServiceStubs
variable {σ : Type} [Storage σ] {storage : σ} {reader : Manifest.Reader} {path : FilePath}
  {failure : Failure}

/-- Why there is no manifest at a path. -/
inductive Manifest.Unloadable (reader : Manifest.Reader) (storage : σ) (path : FilePath) : Prop
  | unreadable {problem : DiskError} (unread : Storage.readText storage path = .error problem)
  | undecodable {text : String} {error : DecodeError}
      (read : Storage.readText storage path = .ok text)
      (undecoded : reader (.ofPath path) text = .error error)
  | incomplete {text : String} {manifest : Manifest} {problem : ManifestProblem}
      (read : Storage.readText storage path = .ok text)
      (decoded : reader (.ofPath path) text = .ok manifest)
      (lacking : manifest.problem? = some problem)

theorem Manifest.load_fails_iff :
    (∃ failure, Manifest.load reader storage path = .error failure) ↔
      Unloadable reader storage path := by
  constructor
  · rintro ⟨failure, failed⟩
    unfold load ofFile at failed
    split at failed
    · rename_i problem unread
      exact .unreadable unread
    · rename_i text read
      cases decoded : reader (.ofPath path) text with
      | error error => exact .undecodable read decoded
      | ok manifest =>
          cases lacking : manifest.problem? with
          | some problem => exact .incomplete read decoded lacking
          | none =>
              rw [parse, decoded] at failed
              simp only [validated, lacking] at failed
              cases failed
  · rintro (unread | ⟨read, undecoded⟩ | ⟨read, decoded, lacking⟩)
    · exact ⟨_, by rw [load, unread, ofFile]⟩
    · exact ⟨_, by rw [load, read, ofFile]; simp only [parse, undecoded]; rfl⟩
    · exact ⟨_, by rw [load, read, ofFile]; simp only [parse, decoded, validated, lacking]; rfl⟩

namespace Producer
variable {producer : Producer} {options : GenerateOptions} {package : Package}

inductive Obstructed (producer : Producer) (reader : Manifest.Reader) (options : GenerateOptions)
    (path : FilePath) (storage : σ) : Prop
  | unloadable (absent : Manifest.Unloadable reader storage path)
  | unassembled {manifest : Manifest} {problem : AssemblyError}
      (loaded : Manifest.load reader storage path = .ok manifest)
      (unbuilt : manifest.build options.duplicatePolicy = .error problem)
  | unproduced {manifest : Manifest} {package : Package} {planned : PlannedFile}
      (loaded : Manifest.load reader storage path = .ok manifest)
      (built : manifest.build options.duplicatePolicy = .ok package)
      (member : planned ∈ package.plan options.destination)
      (obstacle : producer.Unproduced package planned)

theorem put_of_render_error
    (failed : producer.render package options.destination = .error failure) :
    producer.put options package storage = (storage, .error failure, []) := by
  unfold put
  split
  · rw [pendingChanges, failed]
  · rw [write_of_render_error failed]
    rfl

theorem put_dryRun (dry : options.dryRun = true) :
    (producer.put options package storage).1 = storage := by
  rw [put, if_pos dry]

theorem failure_of_put (failed : (producer.put options package storage).2.1 = .error failure) :
    producer.render package options.destination = .error failure ∨
      options.dryRun = false ∧ failure.OfDisk := by
  cases outcome : producer.render package options.destination with
  | error problem =>
      rw [put_of_render_error outcome] at failed
      cases failed
      exact Or.inl rfl
  | ok rendered =>
      unfold put at failed
      split at failed
      · rw [pendingChanges, outcome] at failed
        cases failed
      · -- The package is rendered, so what failed is one of the steps after that.
        rename_i wet
        have stopped := Written.failure_of_result failed
        refine Or.inr ⟨by simpa using wet, (failure_of_write stopped).resolve_left ?_⟩
        rw [outcome]
        nofun

theorem generateService_of_load_error (failed : Manifest.load reader storage path = .error failure) :
    producer.generateService reader options path storage =
      (storage, { manifest := path, result := .error failure }) := by
  rw [generateService, failed]

section
variable {manifest : Manifest} (loaded : Manifest.load reader storage path = .ok manifest)
include loaded

theorem generateService_of_build_error {problem : AssemblyError}
    (unbuilt : manifest.build options.duplicatePolicy = .error problem) :
    (producer.generateService reader options path storage).1 = storage ∧
    ∃ failure, (producer.generateService reader options path storage).2.result = .error failure := by
  simp only [generateService, loaded, generateFrom, unbuilt, true_and]
  exact ⟨_, rfl⟩

theorem generateService_of_build (built : manifest.build options.duplicatePolicy = .ok package) :
    (producer.generateService reader options path storage).1 =
      (producer.put options package storage).1 ∧
    (producer.generateService reader options path storage).2.result =
      inStep ("Failed to generate service '" ++ manifest.service.name ++ "'")
        (producer.put options package storage).2.1 := by
  simp only [generateService, loaded, generateFrom, built, and_self]

end

theorem keeps_of_obstructed (obstructed : producer.Obstructed reader options path storage) :
    (producer.generateService reader options path storage).1 = storage ∧
    ∃ failure, (producer.generateService reader options path storage).2.result = .error failure := by
  cases obstructed with
  | unloadable absent =>
      obtain ⟨failure, failed⟩ := Manifest.load_fails_iff.2 absent
      rw [generateService_of_load_error failed]
      exact ⟨rfl, failure, rfl⟩
  | unassembled loaded unbuilt => exact generateService_of_build_error loaded unbuilt
  | unproduced loaded built member obstacle =>
      obtain ⟨failure, failed⟩ := render_fails_iff.2 ⟨_, member, obstacle⟩
      obtain ⟨reached, result⟩ := generateService_of_build loaded built
      rw [reached, result, put_of_render_error failed]
      exact ⟨rfl, _, rfl⟩

theorem keeps_of_dryRun (dry : options.dryRun = true) :
    (producer.generateService reader options path storage).1 = storage := by
  cases loaded : Manifest.load reader storage path with
  | error failure => rw [generateService_of_load_error loaded]
  | ok manifest =>
      cases built : manifest.build options.duplicatePolicy with
      | error problem => exact (generateService_of_build_error loaded built).1
      | ok package => rw [(generateService_of_build loaded built).1, put_dryRun dry]

theorem obstructed_or_ofDisk
    (failed : (producer.generateService reader options path storage).2.result = .error failure) :
    producer.Obstructed reader options path storage ∨
    options.dryRun = false ∧ ∃ (manifest : Manifest) (problem : Failure),
      Manifest.load reader storage path = .ok manifest ∧ problem.OfDisk ∧ failure =
        problem.within ("Failed to generate service '" ++ manifest.service.name ++ "'") := by
  cases loaded : Manifest.load reader storage path with
  | error problem => exact Or.inl (.unloadable (Manifest.load_fails_iff.1 ⟨problem, loaded⟩))
  | ok manifest =>
      cases built : manifest.build options.duplicatePolicy with
      | error problem => exact Or.inl (.unassembled loaded built)
      | ok package =>
          rw [(generateService_of_build loaded built).2] at failed
          cases outcome : (producer.put options package storage).2.1 with
          | ok paths =>
              rw [outcome] at failed
              cases failed
          | error problem =>
              rw [outcome] at failed
              cases failed
              rcases failure_of_put outcome with unrendered | ⟨wet, ofDisk⟩
              · obtain ⟨planned, member, obstacle⟩ := render_fails_iff.1 ⟨problem, unrendered⟩
                exact Or.inl (.unproduced loaded built member obstacle)
              · exact Or.inr ⟨wet, manifest, problem, rfl, ofDisk, rfl⟩

/-- A service with something in its way fails and leaves the storage as it is, and a dry run
leaves it so in any case. Any other failure is that of an operation on a file, after the whole
package is rendered. -/
theorem generateService_keeps (producer : Producer) (reader : Manifest.Reader)
    (options : GenerateOptions) (path : FilePath) (storage : σ) :
    (producer.Obstructed reader options path storage →
      (producer.generateService reader options path storage).1 = storage ∧
      ∃ failure, (producer.generateService reader options path storage).2.result = .error failure) ∧
    (options.dryRun = true → (producer.generateService reader options path storage).1 = storage) ∧
    ∀ failure, (producer.generateService reader options path storage).2.result = .error failure →
      producer.Obstructed reader options path storage ∨
      options.dryRun = false ∧ ∃ (manifest : Manifest) (problem : Failure),
        Manifest.load reader storage path = .ok manifest ∧ problem.OfDisk ∧ failure =
          problem.within ("Failed to generate service '" ++ manifest.service.name ++ "'") :=
  ⟨keeps_of_obstructed, keeps_of_dryRun, fun _ => obstructed_or_ofDisk⟩

def bareService (name : String) : Manifest where
  service := { name, className := "S", moduleName := name }
  pypiName := "p"
  client := { name := "C", aliasName := "A" }

def bareText (name : String) : String :=
  "\x7b\"service\":\x7b\"name\":\"" ++ name ++ "\",\"class_name\":\"S\",\"module_name\":\""
    ++ name ++ "\"\x7d,\"pypi_name\":\"p\",\"client\":\x7b\"name\":\"C\",\"alias_name\":\"A\"\x7d\x7d"

def bareReader : Manifest.Reader := fun _ text =>
  if text = bareText "a" then .ok (bareService "a")
  else if text = bareText "b" then .ok (bareService "b")
  else .error .invalid

def bareFiles : FileMap :=
  (({} : FileMap).set ⟨"out/a/waiter.pyi"⟩ (.text "")).set ⟨"a.json"⟩ (.text (bareText "a"))

/-- Renders every file but the marker, which stands after others in the plan. -/
def unmarking : Producer where
  renderer := fun template _ =>
    if template = .typedMarker then .error (.ofMessage "no marker") else .ok ""
  formatter := .passthrough

theorem load_bareFiles :
    Manifest.load bareReader bareFiles ⟨"a.json"⟩ = .ok (bareService "a") := by
  decide +kernel

theorem build_bareService : ∃ package, (bareService "a").build .strict = .ok package := by
  have succeeds : ((bareService "a").build .strict).toOption.isSome := by decide +kernel
  cases built : (bareService "a").build .strict with
  | error problem =>
      rw [built] at succeeds
      cases succeeds
  | ok package => exact ⟨package, rfl⟩

/-- The marker cannot be rendered, so no file is written and the old module stays. -/
theorem unmarked_keeps :
    let options : GenerateOptions := { destination := { output := ⟨"out"⟩ } }
    unmarking.Obstructed bareReader options ⟨"a.json"⟩ bareFiles ∧
    (unmarking.generateService bareReader options ⟨"a.json"⟩ bareFiles).1 = bareFiles ∧
    ∃ failure, (unmarking.generateService bareReader options ⟨"a.json"⟩ bareFiles).2.result
      = .error failure := by
  intro options
  obtain ⟨package, built⟩ := build_bareService
  have member : ⟨(package.folder options.destination).join ⟨"py.typed"⟩, .typedMarker⟩ ∈
      package.plan options.destination := by
    simp [Package.plan, Package.fixedFiles]
  have obstructed : unmarking.Obstructed bareReader options ⟨"a.json"⟩ bareFiles :=
    .unproduced load_bareFiles built member (.unrendered rfl)
  obtain ⟨keeps, -, -⟩ := generateService_keeps unmarking bareReader options ⟨"a.json"⟩ bareFiles
  exact ⟨obstructed, keeps obstructed⟩

end Producer

end ServiceStubs
