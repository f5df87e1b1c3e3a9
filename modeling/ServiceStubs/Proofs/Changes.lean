import ServiceStubs.Generate
import ServiceStubs.Proofs.Write
/-!
Which files writing a package changes. A dry run holds every file against what
is there before anything is written; a real run does so between its writes.
Since no two planned paths are one and nothing planned is removed, both come to
the same list, and what is written once has nothing left to be changed.
-/

namespace ServiceStubs

variable {files : FileMap}

namespace RenderedFile

theorem isChanged_iff {file : RenderedFile} :
    file.isChanged files = true ↔ files.content? file.path ≠ some (.text file.content) := by
  unfold isChanged
  cases read : Storage.readText files file.path with
  | ok existing =>
      rw [FileMap.content?_of_readText read]
      simp
  | error problem =>
      simp only [true_iff]
      intro present
      have text : Storage.readText files file.path = .ok file.content := by
        simp only [Storage.readText, FileMap.readText, present]
      rw [read] at text
      cases text

theorem isChanged_set {file : RenderedFile} {path : FilePath} (apart : file.path ≠ path)
    (content : Content) : file.isChanged (files.set path content) = file.isChanged files := by
  rw [Bool.eq_iff_iff, isChanged_iff, isChanged_iff, FileMap.content?_set, if_neg apart]

/-- The step leaves the file with its content and tells whether it had to be written for that. -/
theorem write_outcome (file : RenderedFile) (files : FileMap) :
    file.write files = (files.set file.path (.text file.content),
      .ok (if file.isChanged files then .wrote file.path else .unchanged file.path)) := by
  obtain ⟨event, step⟩ := file.write_eq files
  have told : (file.write files).2 =
      .ok (if file.isChanged files then .wrote file.path else .unchanged file.path) := by
    unfold write
    by_cases changed : file.isChanged files
    · simp only [changed, if_true, prepare]
      cases file.path.parent <;> rfl
    · simp only [changed, Bool.false_eq_true, if_false]
  rw [step] at told ⊢
  exact congrArg (Prod.mk _) told

end RenderedFile

namespace Written

/-- While files are written one by one, each is compared with what was there at the beginning. -/
theorem written_forEach_write (rendered : List RenderedFile)
    (distinct : (rendered.map (·.path)).Nodup) (files : FileMap) :
    (forEach RenderedFile.write rendered files).events.filterMap FileEvent.written? =
      (rendered.filter (·.isChanged files)).map (·.path) := by
  induction rendered generalizing files with
  | nil => rfl
  | cons file rest ih =>
      obtain ⟨fresh, distinct⟩ := List.nodup_cons.1 distinct
      have later := ih distinct (files.set file.path (.text file.content))
      have unmoved : rest.filter (·.isChanged (files.set file.path (.text file.content))) =
          rest.filter (·.isChanged files) := by
        apply List.filter_congr
        intro other member
        have apart : other.path ≠ file.path := fun same =>
          fresh (List.mem_map.2 ⟨other, member, same⟩)
        exact RenderedFile.isChanged_set apart _
      rw [unmoved] at later
      simp only [forEach, file.write_outcome files]
      by_cases changed : file.isChanged files
      · simp [changed, FileEvent.written?, later]
      · have silent : (FileEvent.unchanged file.path).written? = none := rfl
        simp [changed, List.filterMap_cons_none silent, later]

theorem written_forEach_removeStale {σ : Type} [Storage σ] (paths : List FilePath) (storage : σ) :
    (forEach removeStale paths storage).events.filterMap FileEvent.written? = [] := by
  induction paths generalizing storage with
  | nil => rfl
  | cons path rest ih =>
      unfold forEach
      split
      · rfl
      · rename_i reached event step
        have removed : event.written? = none := by
          unfold removeStale at step
          split at step
          · cases step
          · cases step
            rfl
        rw [List.filterMap_cons_none removed]
        exact ih reached

end Written

namespace Producer
variable {producer : Producer} {package : Package} {destination : Destination}
  {rendered : List RenderedFile} {before : FileMap} {paths : List FilePath}

/-- A dry run foretells what the real one answers, be it the written paths or a failure. -/
theorem pendingChanges_eq (producer : Producer) (package : Package) (destination : Destination)
    (before : FileMap) :
    producer.pendingChanges package destination before =
      (producer.write package destination before).result := by
  cases outcome : producer.render package destination with
  | error failure =>
      rw [write_of_render_error outcome, pendingChanges, outcome]
      rfl
  | ok rendered =>
      have distinct := package.plan_paths_nodup destination
      rw [← render_paths outcome] at distinct
      have done := (Written.forEach_write rendered distinct before).1
      have swept := (package.content?_sweep destination done).1
      simp only [pendingChanges, outcome, write, Written.result, swept]
      simp only [Package.sweep, done, List.filterMap_append,
        Written.written_forEach_write rendered distinct before,
        Written.written_forEach_removeStale, List.append_nil]

theorem render_of_result (succeeded : (producer.write package destination before).result = .ok paths) :
    ∃ rendered, producer.render package destination = .ok rendered ∧
      paths = (rendered.filter (·.isChanged before)).map (·.path) := by
  rw [← pendingChanges_eq, pendingChanges] at succeeded
  cases outcome : producer.render package destination with
  | error failure =>
      rw [outcome] at succeeded
      cases succeeded
  | ok rendered =>
      rw [outcome] at succeeded
      cases succeeded
      exact ⟨rendered, rfl, rfl⟩

theorem result_ok_iff : (∃ paths, (producer.write package destination before).result = .ok paths) ↔
    ∃ rendered, producer.render package destination = .ok rendered := by
  constructor
  · rintro ⟨paths, succeeded⟩
    obtain ⟨rendered, outcome, _⟩ := render_of_result succeeded
    exact ⟨rendered, outcome⟩
  · rintro ⟨rendered, outcome⟩
    refine ⟨(rendered.filter (·.isChanged before)).map (·.path), ?_⟩
    rw [← pendingChanges_eq, pendingChanges, outcome]

/-- The written paths are the planned ones at which something else was before. -/
theorem paths_eq_filter {after : FileMap}
    (outcome : producer.render package destination = .ok rendered)
    (settled : package.Settled destination rendered before after) :
    (rendered.filter (·.isChanged before)).map (·.path) =
      ((package.plan destination).map (·.path)).filter
        fun path => before.content? path ≠ after.content? path := by
  rw [← render_paths outcome, List.filter_map]
  congr 1
  apply List.filter_congr
  intro file member
  rw [Bool.eq_iff_iff, RenderedFile.isChanged_iff]
  simp [settled.written file member]

theorem not_isFile_of_settled {after : FileMap} {path : FilePath}
    (settled : package.Settled destination rendered before after)
    (unplanned : path ∈ package.unplannedPaths destination) : after.isFile path = false := by
  rw [FileMap.isFile, settled.removed path unplanned]
  rfl

theorem staleFiles_of_settled {after : FileMap}
    (settled : package.Settled destination rendered before after) :
    package.staleFiles destination after = [] := by
  apply List.filter_eq_nil_iff.2
  intro path unplanned there
  have gone := not_isFile_of_settled settled unplanned
  exact Bool.false_ne_true (gone.symm.trans there)

/-- Once a package is written, writing it again changes nothing. -/
theorem write_again {after : FileMap} (outcome : producer.render package destination = .ok rendered)
    (settled : package.Settled destination rendered before after) :
    (producer.write package destination after).result = .ok [] ∧
    (producer.write package destination after).storage = after := by
  have again := (write_settled outcome after).2
  constructor
  · have unchanged : rendered.filter (·.isChanged after) = [] := by
      apply List.filter_eq_nil_iff.2
      intro file member
      rw [RenderedFile.isChanged_iff, settled.written file member]
      exact fun differs => differs rfl
    simp only [← pendingChanges_eq, pendingChanges, outcome, unchanged, List.map_nil]
  · refine congrArg FileMap.mk (funext fun path => ?_)
    have resettled : package.Settled destination rendered before
        (producer.write package destination after).storage :=
      ⟨again.written, again.removed, fun path untouched =>
        (again.kept path untouched).trans (settled.kept path untouched)⟩
    exact resettled.content_eq (render_paths outcome) settled fun _ => rfl

/-- Writing a package succeeds where every planned file can be produced. Then every planned path
holds what is produced for it, the written paths are the planned ones, in their order, that held
anything else before, what the package owns without planning it is gone, and all other files are
as they were. No file is stale then, and a second run writes nothing. A dry run at the beginning
answers the same as the real one, also where that fails, and leaves the files alone. -/
theorem write_exact (producer : Producer) (package : Package) (destination : Destination)
    (before : FileMap) :
    let written := producer.write package destination before
    let planned := (package.plan destination).map (·.path)
    producer.pendingChanges package destination before = written.result ∧
    producer.put { destination, dryRun := true } package before = (before, written.result, []) ∧
    ((∃ paths, written.result = .ok paths) ↔
      ∀ file ∈ package.plan destination, ∃ content, producer.Produced package file content) ∧
    ∀ paths, written.result = .ok paths →
      (∀ file ∈ package.plan destination, ∃ content, producer.Produced package file content ∧
        written.storage.content? file.path = some (.text content)) ∧
      (paths = planned.filter fun path =>
        before.content? path ≠ written.storage.content? path) ∧
      (∀ path ∈ package.ownedPaths destination, path ∉ planned →
        written.storage.isFile path = false) ∧
      (∀ path, path ∉ planned → path ∉ package.ownedPaths destination →
        written.storage.content? path = before.content? path) ∧
      package.staleFiles destination written.storage = [] ∧
      (producer.write package destination written.storage).result = .ok [] ∧
      (producer.write package destination written.storage).storage = written.storage := by
  intro written planned
  have foretold := producer.pendingChanges_eq package destination before
  refine ⟨foretold, ?_, ?_, fun paths succeeded => ?_⟩
  · rw [put, if_pos rfl, foretold]
  · rw [← render_succeeds_iff]
    exact result_ok_iff
  · obtain ⟨rendered, outcome, rfl⟩ := render_of_result succeeded
    have settled : package.Settled destination rendered before written.storage :=
      (write_settled outcome before).2
    obtain ⟨nothing, unmoved⟩ := write_again outcome settled
    refine ⟨?_, paths_eq_filter outcome settled, ?_, ?_, staleFiles_of_settled settled, nothing,
      unmoved⟩
    · intro file member
      obtain ⟨produced, listed, rendersTo⟩ := renderFiles_mem outcome file member
      obtain ⟨path, contains⟩ := renderFile_eq_ok_iff.1 rendersTo
      refine ⟨produced.content, contains, ?_⟩
      rw [← path]
      exact settled.written produced listed
    · intro path owned unplanned
      have spare : path ∈ package.unplannedPaths destination :=
        List.mem_filter.2 ⟨owned, by simpa [planned] using unplanned⟩
      exact not_isFile_of_settled settled spare
    · intro path unplanned unowned
      exact settled.kept path fun touched => touched.elim unplanned unowned

/-- One file up to date, one that is no text, one of a module the package no longer has, and one of
somebody else. -/
def leftovers : FileMap :=
  ((((({} : FileMap).set ⟨"out/stubs_s3/version.py"⟩ (.text "# stubs_s3\n2\n")).set
    ⟨"out/stubs_s3/client.pyi"⟩ (.bytes [255])).set
    ⟨"out/stubs_s3/waiter.pyi"⟩ (.text "1")).set
    ⟨"out/stubs_s3/notes.md"⟩ (.text "mine"))

theorem leftovers_rewritten :
    let destination : Destination := { output := ⟨"out"⟩ }
    let written := stamping.write (revision "2" []) destination leftovers
    let folder : FilePath := ⟨"out/stubs_s3"⟩
    written.result = .ok (["__init__.pyi", "__init__.py", "__main__.py", "py.typed", "client.pyi",
      "client.py"].map fun name => folder.join ⟨name⟩) ∧
    (stamping.put { destination, dryRun := true } (revision "2" []) leftovers).2.1
      = written.result ∧
    written.storage.content? ⟨"out/stubs_s3/client.pyi"⟩ = some (.text "# stubs_s3\n2\n") ∧
    written.storage.content? ⟨"out/stubs_s3/py.typed"⟩ = some (.text "2\n") ∧
    written.storage.isFile ⟨"out/stubs_s3/waiter.pyi"⟩ = false ∧
    written.storage.content? ⟨"out/stubs_s3/notes.md"⟩ = some (.text "mine") ∧
    (stamping.write (revision "2" []) destination written.storage).result = .ok [] := by
  intro destination written folder
  obtain ⟨_, dry, produces, settles⟩ :=
    write_exact stamping (revision "2" []) destination leftovers
  have succeeded : written.result = .ok (["__init__.pyi", "__init__.py", "__main__.py", "py.typed",
      "client.pyi", "client.py"].map fun name => folder.join ⟨name⟩) := by
    decide +kernel
  obtain ⟨holds, _, gone, kept, _, nothing, _⟩ := settles _ succeeded
  refine ⟨succeeded, by rw [dry], ?_, ?_, gone _ (by decide) (by decide),
    kept _ (by decide) (by decide), nothing⟩
  · obtain ⟨content, ⟨rendered, formats, _, sorts⟩ | ⟨_, _, other⟩, held⟩ :=
      holds ⟨⟨"out/stubs_s3/client.pyi"⟩, .module .client⟩ (by decide)
    · cases rendered
      cases formats
      cases sorts
      exact held
    · exact absurd (PlannedFile.isCode_iff.1 (by decide +kernel)) other
  · obtain ⟨content, ⟨_, _, code, _⟩ | ⟨rendered, formats, _⟩, held⟩ :=
      holds ⟨⟨"out/stubs_s3/py.typed"⟩, .typedMarker⟩ (by decide)
    · exact absurd (PlannedFile.isCode_iff.2 code) (by decide +kernel)
    · cases rendered
      cases formats
      exact held

end Producer

end ServiceStubs
