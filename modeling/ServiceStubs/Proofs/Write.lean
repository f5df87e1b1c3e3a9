import ServiceStubs.Output
import ServiceStubs.Proofs.Render
/-!
What writing a package does. In any storage, a package that cannot be rendered
changes nothing, and what else can fail is an operation on a file. In a map of
files a package that is rendered is written in full: its files hold what was
rendered, the other paths it owns hold nothing, and no path beside these is
touched.
-/

namespace ServiceStubs

/-! ## Any storage -/

section
variable {σ : Type} {storage : σ} {path : FilePath} {failure : Failure}

def Failure.OfDisk (failure : Failure) : Prop :=
  ∃ step problem, failure = { context := [step], cause := .disk problem }

theorem ofDisk_of_diskStep {step : String} {outcome : Except DiskError α}
    (failed : diskStep step outcome = .error failure) : failure.OfDisk := by
  cases outcome with
  | ok value => cases failed
  | error problem =>
      cases failed
      exact ⟨step, problem, rfl⟩

theorem Written.failure_of_forEach {step : α → σ → σ × Except Failure FileEvent} {items : List α}
    (failed : (forEach step items storage).failure? = some failure) :
    ∃ item ∈ items, ∃ reached, (step item reached).2 = .error failure := by
  induction items generalizing storage with
  | nil => cases failed
  | cons item rest ih =>
      unfold forEach at failed
      split at failed
      · rename_i reached problem stopped
        cases failed
        exact ⟨item, List.mem_cons_self, storage, congrArg Prod.snd stopped⟩
      · obtain ⟨later, member, stopped⟩ := ih failed
        exact ⟨later, List.mem_cons_of_mem item member, stopped⟩

theorem Written.failure_of_result {written : Written σ} (failed : written.result = .error failure) :
    written.failure? = some failure := by
  unfold result at failed
  split at failed
  · cases failed
    assumption
  · cases failed

variable [Storage σ]

theorem RenderedFile.ofDisk_of_write {file : RenderedFile}
    (failed : (file.write storage).2 = .error failure) : failure.OfDisk := by
  unfold write at failed
  split at failed
  · split at failed
    · rename_i prepared problem unprepared
      cases failed
      unfold prepare at unprepared
      split at unprepared
      · cases unprepared
      · exact ofDisk_of_diskStep (congrArg Prod.snd unprepared)
    · split at failed
      · rename_i problem unwritten
        cases failed
        exact ofDisk_of_diskStep unwritten
      · cases failed
  · cases failed

theorem ofDisk_of_removeStale (failed : (removeStale path storage).2 = .error failure) :
    failure.OfDisk := by
  unfold removeStale at failed
  split at failed
  · rename_i problem unremoved
    cases failed
    exact ofDisk_of_diskStep unremoved
  · cases failed

namespace Producer
variable {producer : Producer} {package : Package} {destination : Destination}

/-- A package that cannot be rendered leaves the storage as it is. -/
theorem write_of_render_error (failed : producer.render package destination = .error failure) :
    producer.write package destination storage = { storage, failure? := some failure } := by
  rw [write, failed]

theorem failure_of_write
    (failed : (producer.write package destination storage).failure? = some failure) :
    producer.render package destination = .error failure ∨ failure.OfDisk := by
  cases outcome : producer.render package destination with
  | error problem =>
      rw [write_of_render_error outcome] at failed
      cases failed
      exact Or.inl rfl
  | ok rendered =>
      refine Or.inr ?_
      simp only [write, outcome, Package.sweep] at failed
      split at failed
      · obtain ⟨file, _, reached, stopped⟩ := Written.failure_of_forEach failed
        exact RenderedFile.ofDisk_of_write stopped
      · obtain ⟨stale, _, reached, stopped⟩ := Written.failure_of_forEach failed
        exact ofDisk_of_removeStale stopped

end Producer

end

/-! ## A map of files -/

namespace FileMap
variable {files : FileMap} {path : FilePath}

theorem set_eq_self {content : Content} (present : files.content? path = some content) :
    files.set path content = files := by
  refine congrArg mk (funext fun other => ?_)
  split
  · rename_i same
    rw [same, present]
  · rfl

theorem content?_of_readText {text : String} (read : files.readText path = .ok text) :
    files.content? path = some (.text text) := by
  unfold readText at read
  split at read
  · cases read
  · cases read
  · rename_i value present
    cases read
    exact present

end FileMap

/-- Leaving a file alone that has its content comes to the same as writing it. -/
theorem RenderedFile.write_eq (file : RenderedFile) (files : FileMap) :
    ∃ event, file.write files = (files.set file.path (.text file.content), .ok event) := by
  unfold write
  split
  · have prepared : file.prepare files = (files, .ok ()) := by
      unfold prepare
      split <;> rfl
    rw [prepared]
    exact ⟨_, rfl⟩
  · rename_i unchanged
    have same : files.readText file.path = .ok file.content := by
      unfold isChanged at unchanged
      split at unchanged
      · rename_i existing read
        simp only [ne_eq, decide_not, Bool.not_eq_true', decide_eq_false_iff_not,
          Decidable.not_not] at unchanged
        exact unchanged ▸ read
      · cases unchanged rfl
    rw [FileMap.set_eq_self (FileMap.content?_of_readText same)]
    exact ⟨_, rfl⟩

theorem removeStale_eq {path : FilePath} {files : FileMap} (present : files.isFile path) :
    removeStale path files = (files.erase path, .ok (.removed path)) := by
  have removed : Storage.removeFile files path = .ok (files.erase path) := if_pos present
  rw [removeStale, removed]
  rfl

namespace Written

theorem forEach_write (rendered : List RenderedFile)
    (distinct : (rendered.map (·.path)).Nodup) (files : FileMap) :
    let written := forEach RenderedFile.write rendered files
    written.failure? = none ∧
    (∀ file ∈ rendered, written.storage.content? file.path = some (.text file.content)) ∧
    ∀ path ∉ rendered.map (·.path), written.storage.content? path = files.content? path := by
  induction rendered generalizing files with
  | nil => exact ⟨rfl, nofun, fun _ _ => rfl⟩
  | cons file rest ih =>
      obtain ⟨event, step⟩ := file.write_eq files
      obtain ⟨fresh, distinct⟩ := List.nodup_cons.1 distinct
      -- The rest is written to other paths, so what this step sets stays.
      obtain ⟨succeeded, filled, kept⟩ := ih distinct (files.set file.path (.text file.content))
      simp only [forEach, step]
      refine ⟨succeeded, fun other member => ?_, fun path outside => ?_⟩
      · rcases List.mem_cons.1 member with rfl | later
        · rw [kept _ fresh, FileMap.content?_set, if_pos rfl]
        · exact filled other later
      · rw [List.map_cons, List.mem_cons, not_or] at outside
        rw [kept path outside.2, FileMap.content?_set, if_neg outside.1]

theorem forEach_removeStale (paths : List FilePath) (distinct : paths.Nodup) (files : FileMap)
    (present : ∀ path ∈ paths, files.isFile path) :
    let written := forEach removeStale paths files
    written.failure? = none ∧
    ∀ path, written.storage.content? path = if path ∈ paths then none else files.content? path := by
  induction paths generalizing files with
  | nil => exact ⟨rfl, fun _ => rfl⟩
  | cons stale rest ih =>
      obtain ⟨fresh, distinct⟩ := List.nodup_cons.1 distinct
      -- The paths to come are others, so their files are still there to be removed.
      have remaining : ∀ path ∈ rest, (files.erase stale).isFile path := by
        intro path member
        have apart : path ≠ stale := fun same => fresh (same ▸ member)
        have there := present path (List.mem_cons_of_mem stale member)
        rwa [FileMap.isFile, FileMap.content?_erase, if_neg apart]
      obtain ⟨succeeded, removed⟩ := ih distinct (files.erase stale) remaining
      simp only [forEach, removeStale_eq (present stale List.mem_cons_self)]
      refine ⟨succeeded, fun path => ?_⟩
      rw [removed path, FileMap.content?_erase]
      by_cases same : path = stale <;> simp [same]

end Written

namespace Package
variable {package : Package} {destination : Destination} {rendered : List RenderedFile}
  {path : FilePath}

/-- After the removals there is nothing at the owned paths that are not planned. -/
theorem content?_sweep (package : Package) (destination : Destination)
    {written : Written FileMap} (succeeded : written.failure? = none) :
    let swept := package.sweep destination written
    swept.failure? = none ∧ ∀ path, swept.storage.content? path =
      if path ∈ package.unplannedPaths destination then none
      else written.storage.content? path := by
  have stale : (package.staleFiles destination written.storage).Nodup :=
    (package.unplannedPaths_nodup destination).filter _
  obtain ⟨swept, removed⟩ := Written.forEach_removeStale _ stale written.storage
    fun path member => (List.mem_filter.1 member).2
  simp only [sweep, succeeded]
  refine ⟨swept, fun path => ?_⟩
  rw [removed]
  by_cases there : written.storage.isFile path
  · simp [staleFiles, Storage.isFile, there]
  · -- What is no file needs not be removed.
    have absent : written.storage.content? path = none := by
      simpa [FileMap.isFile] using there
    simp [absent]

structure Settled (package : Package) (destination : Destination) (rendered : List RenderedFile)
    (before after : FileMap) : Prop where
  written : ∀ file ∈ rendered, after.content? file.path = some (.text file.content)
  removed : ∀ path ∈ package.unplannedPaths destination, after.content? path = none
  kept : ∀ path, ¬ package.Touches destination path → after.content? path = before.content? path

/-- What was before shows only where the package touches nothing. -/
theorem Settled.content_eq {before before' after after' : FileMap}
    (paths : rendered.map (·.path) = (package.plan destination).map (·.path))
    (settled : package.Settled destination rendered before after)
    (settled' : package.Settled destination rendered before' after')
    (agree : ¬ package.Touches destination path → before.content? path = before'.content? path) :
    after.content? path = after'.content? path := by
  by_cases touched : package.Touches destination path
  · rcases touches_iff_unplanned.1 touched with planned | unplanned
    · rw [← paths] at planned
      obtain ⟨file, member, rfl⟩ := List.mem_map.1 planned
      rw [settled.written file member, settled'.written file member]
    · rw [settled.removed path unplanned, settled'.removed path unplanned]
  · rw [settled.kept path touched, settled'.kept path touched, agree touched]

/-- Where nothing was before, there are the rendered files and no other. -/
theorem Settled.content_eq_some_iff {before after : FileMap} {content : Content}
    (paths : rendered.map (·.path) = (package.plan destination).map (·.path))
    (settled : package.Settled destination rendered before after)
    (absent : before.content? path = none) :
    after.content? path = some content ↔
      ∃ file ∈ rendered, file.path = path ∧ content = .text file.content := by
  constructor
  · intro present
    by_cases planned : path ∈ (package.plan destination).map (·.path)
    · rw [← paths] at planned
      obtain ⟨file, member, rfl⟩ := List.mem_map.1 planned
      rw [settled.written file member] at present
      exact ⟨file, member, rfl, (Option.some.inj present).symm⟩
    · have gone : after.content? path = none := by
        by_cases touched : package.Touches destination path
        · exact settled.removed path
            ((touches_iff_unplanned.1 touched).resolve_left planned)
        · rw [settled.kept path touched, absent]
      rw [gone] at present
      cases present
  · rintro ⟨file, member, rfl, rfl⟩
    exact settled.written file member

end Package

namespace Producer
variable {producer : Producer} {package : Package} {destination : Destination}

/-- A package that is rendered is written, whatever the files were before. -/
theorem write_settled {rendered : List RenderedFile}
    (succeeded : producer.render package destination = .ok rendered) (before : FileMap) :
    let written := producer.write package destination before
    written.failure? = none ∧ package.Settled destination rendered before written.storage := by
  have paths := render_paths succeeded
  have distinct := package.plan_paths_nodup destination
  rw [← paths] at distinct
  obtain ⟨wrote, filled, kept⟩ := Written.forEach_write rendered distinct before
  obtain ⟨swept, left⟩ := package.content?_sweep destination wrote
  simp only [write, succeeded]
  refine ⟨swept, fun file member => ?_, fun path unplanned => ?_, fun path untouched => ?_⟩
  · have planned : file.path ∈ (package.plan destination).map (·.path) :=
      paths ▸ List.mem_map_of_mem member
    have standing : file.path ∉ package.unplannedPaths destination := fun unplanned =>
      Package.not_planned_of_mem_unplannedPaths unplanned planned
    rw [left, if_neg standing, filled file member]
  · rw [left, if_pos unplanned]
  · rw [Package.touches_iff_unplanned, not_or] at untouched
    rw [left, if_neg untouched.2, kept path (paths ▸ untouched.1)]

end Producer

end ServiceStubs

/-!
Writing packages one after the other to one place. What is there in the end is
decided by the last package that could be rendered: nothing of the earlier ones
is left, however their components came and went, and a run that fails in between
leaves no trace.
-/

namespace ServiceStubs.Producer

variable {producer : Producer} {destination : Destination} {package last : Package}
  {history : List Package} {path : FilePath}

def writeAll [Storage σ] (producer : Producer) (destination : Destination) :
    List Package → σ → σ
  | [], storage => storage
  | package :: rest, storage =>
      writeAll producer destination rest (producer.write package destination storage).storage

/-- One run changes at most what its package touches, and nothing if it fails. -/
theorem write_kept (untouched : ¬ package.Touches destination path) (files : FileMap) :
    (producer.write package destination files).storage.content? path = files.content? path := by
  cases outcome : producer.render package destination with
  | error failure => rw [write_of_render_error outcome]
  | ok rendered => exact (write_settled outcome files).2.kept path untouched

theorem writeAll_kept (shares : ∀ package ∈ history, package.SharesPlace last)
    (untouched : ¬ last.Touches destination path) (files : FileMap) :
    (producer.writeAll destination history files).content? path = files.content? path := by
  induction history generalizing files with
  | nil => rfl
  | cons package rest ih =>
      have untouched' : ¬ package.Touches destination path := fun touched =>
        untouched ((shares package List.mem_cons_self).touches_iff.1 touched)
      rw [writeAll, ih fun later member => shares later (List.mem_cons_of_mem package member),
        write_kept untouched']

/-- In a map of files a run fails only where its package cannot be rendered. -/
theorem write_failure_iff {files : FileMap} {failure : Failure} :
    (producer.write package destination files).failure? = some failure ↔
      producer.render package destination = .error failure := by
  cases outcome : producer.render package destination with
  | error problem => simp [write_of_render_error outcome]
  | ok rendered => simp [(write_settled outcome files).1]

/-- After any runs at one place, each of them done or failed, a last one that succeeds leaves what
it leaves when it is the only one. Where there was nothing at first, as below an empty output
folder, there are then the files of the last package with what was rendered for them, and these
are the files it gives when there is nothing at all to begin with. -/
theorem write_after_writeAll (producer : Producer) (destination : Destination)
    (shares : ∀ package ∈ history, package.SharesPlace last) {start : FileMap}
    (succeeded : (producer.write last destination
      (producer.writeAll destination history start)).failure? = none) :
    let final := (producer.write last destination
      (producer.writeAll destination history start)).storage
    final = (producer.write last destination start).storage ∧
    (∀ path, start.content? path = none → final.content? path =
      (producer.write last destination ({} : FileMap)).storage.content? path) ∧
    ∃ rendered, producer.render last destination = .ok rendered ∧
      ∀ path, start.content? path = none → ∀ content, final.content? path = some content ↔
        ∃ file ∈ rendered, file.path = path ∧ content = .text file.content := by
  intro final
  cases outcome : producer.render last destination with
  | error failure =>
      rw [write_failure_iff.2 outcome] at succeeded
      cases succeeded
  | ok rendered =>
      have paths := render_paths outcome
      have incremental := (write_settled outcome (producer.writeAll destination history start)).2
      have clean := (write_settled outcome start).2
      have same : final = (producer.write last destination start).storage := by
        refine congrArg FileMap.mk (funext fun path => ?_)
        exact incremental.content_eq paths clean fun untouched =>
          writeAll_kept shares untouched start
      refine ⟨same, fun path absent => ?_, rendered, rfl, fun path absent content => ?_⟩
      · rw [same]
        exact clean.content_eq paths (write_settled outcome {}).2 fun _ => absent
      · rw [same]
        exact clean.content_eq_some_iff paths absent

def revision (version : String) (waiters : List Waiter) : Package where
  name := "stubs_s3"
  pypiName := "stubs-s3"
  version := version
  service := { name := "s3", className := "S3", moduleName := "stubs_s3" }
  client := { name := "S3Client", aliasName := "Client" }
  waiters := waiters
  registry := Registry.empty "s3" .strict

/-- Fills every file with the version of the package, which is not to be missing, on a line of its
own. Code has the name of the module above it. -/
def stamping : Producer where
  renderer := fun _ package =>
    if package.version = "" then .error (.ofMessage "no version") else .ok package.version
  formatter :=
    { format := fun text _ => .ok (text ++ "\n")
      sortImports := fun text module _ => .ok ("# " ++ module ++ "\n" ++ text) }

theorem stamping_renders (versioned : package.version ≠ "") (destination : Destination) :
    ∃ rendered, stamping.render package destination = .ok rendered := by
  cases outcome : stamping.render package destination with
  | ok rendered => exact ⟨rendered, rfl⟩
  | error failure =>
      obtain ⟨planned, _, obstacle⟩ := render_fails_iff.1 ⟨failure, outcome⟩
      cases obstacle with
      | unrendered failed =>
          have stamped : stamping.renderer planned.template package = .ok package.version :=
            if_neg versioned
          rw [stamped] at failed
          cases failed
      | unformatted _ failed => cases failed
      | unsorted _ _ _ failed => cases failed

/-- A revision with a waiter, then one that cannot be rendered, then one without the waiter. -/
theorem waiter_dropped :
    let destination : Destination := { output := ⟨"out"⟩ }
    let history := [revision "1" [default], revision "" []]
    let last := revision "2" []
    let final := (stamping.write last destination
      (stamping.writeAll destination history ({} : FileMap))).storage
    (revision "1" [default]).has .waiter = true ∧ last.has .waiter = false ∧
    stamping.render (revision "" []) destination = .error (.ofMessage "no version") ∧
    (∀ package ∈ history, package.SharesPlace last) ∧
    (stamping.write last destination
      (stamping.writeAll destination history ({} : FileMap))).failure? = none ∧
    final = (stamping.write last destination ({} : FileMap)).storage ∧
    ∃ rendered, stamping.render last destination = .ok rendered ∧
      ∀ path content, final.content? path = some content ↔
        ∃ file ∈ rendered, file.path = path ∧ content = .text file.content := by
  intro destination history last final
  have shares : ∀ package ∈ history, package.SharesPlace last := by
    simp only [history, List.forall_mem_cons]
    exact ⟨⟨rfl, rfl⟩, ⟨rfl, rfl⟩, nofun⟩
  obtain ⟨rendered, outcome⟩ := stamping_renders (show last.version ≠ "" by decide) destination
  have succeeded := (write_settled outcome (stamping.writeAll destination history {})).1
  obtain ⟨same, _, files, given, present⟩ :=
    write_after_writeAll stamping destination shares succeeded
  exact ⟨rfl, rfl, rfl, shares, succeeded, same, files, given, fun path => present path rfl⟩

end ServiceStubs.Producer
