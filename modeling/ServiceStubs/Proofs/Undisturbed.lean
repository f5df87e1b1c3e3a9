import Mathlib.Data.List.Pairwise
import ServiceStubs.Proofs.Keeping
/-!
Services of one run do not disturb each other. When the places that a service
looks at and changes are apart from those of the other services, each does what
it does alone, and the disk ends up the same, in whatever order the operations of
the services follow each other.
-/

namespace ServiceStubs

open Disk

/-! ## Folders -/

namespace GenerateOptions
variable {reader : Manifest.Reader} {options : GenerateOptions} {disk : Disk}
  {manifest path : FilePath}

def folder? (options : GenerateOptions) (reader : Manifest.Reader) (disk : Disk)
    (manifest : FilePath) : Option FilePath :=
  match Manifest.load reader disk manifest with
  | .error _ => none
  | .ok loaded =>
      match loaded.build options.duplicatePolicy with
      | .error _ => none
      | .ok package => some (package.folder options.destination)

theorem mem_ownPaths (plain : options.destination.withSetup = false)
    (member : path ∈ options.ownPaths reader disk manifest) :
    ∃ folder, options.folder? reader disk manifest = some folder ∧
      ∃ name ∈ Package.fileNames, folder.join ⟨name⟩ = path := by
  unfold ownPaths at member
  unfold folder?
  cases loaded : Manifest.load reader disk manifest with
  | error failure => simp [loaded] at member
  | ok given =>
      simp only [loaded, Manifest.ownPaths] at member
      cases built : given.build options.duplicatePolicy with
      | error problem => simp [built] at member
      | ok package =>
          simp only [built, List.mem_append] at member
          rcases Package.touches_iff_names.1 member with setup | named
          · simp [Package.setupPlan, plain] at setup
          · refine ⟨package.folder options.destination, ?_, named⟩
            simp only [built]

def outline (options : GenerateOptions) (reader : Manifest.Reader) (disk : Disk)
    (manifest : FilePath) : Footprint where
  manifest := disk.placeOf? manifest
  files := ((options.folder? reader disk manifest).bind disk.placeOf?).toList

theorem mem_footprint_files (plain : options.destination.withSetup = false) {file : Place}
    (member : file ∈ (options.footprint reader disk manifest).files) :
    ∃ folder ∈ (options.outline reader disk manifest).files, ∃ name, file = folder ++ [name] := by
  obtain ⟨path, own, leads⟩ := List.mem_filterMap.1 member
  obtain ⟨folder, found, name, known, rfl⟩ := mem_ownPaths plain own
  rw [Package.placeOf?_join (List.mem_append_right _ known)] at leads
  obtain ⟨place, there, rfl⟩ := Option.map_eq_some_iff.1 leads
  refine ⟨place, ?_, name, rfl⟩
  rw [outline, found, Option.bind_some, there]
  exact List.mem_singleton_self place

theorem spares_of_outline (plain : options.destination.withSetup = false) {other : FilePath}
    (spares : (options.outline reader disk manifest).Spares (options.outline reader disk other)) :
    (options.footprint reader disk manifest).Spares (options.footprint reader disk other) := by
  intro file member place seen
  obtain ⟨folder, inside, name, rfl⟩ := mem_footprint_files plain member
  rcases List.mem_append.1 seen with itself | written
  · have apart := spares folder inside place (List.mem_append_left _ itself)
    have below := Footprint.apart_append apart [name] []
    rwa [List.append_nil] at below
  · obtain ⟨folder', inside', name', rfl⟩ := mem_footprint_files plain written
    have apart := spares folder inside folder' (List.mem_append_right _ inside')
    exact Footprint.apart_append apart [name] [name']

end GenerateOptions

namespace Producer
variable {producer : Producer} {reader : Manifest.Reader} {options : GenerateOptions}
  {disk : Disk} {manifest : FilePath}

/-! ## Runs -/

/-- The services of a run are out of each other's way: no file of one of them is at, below or above
a file or the manifest of another one. Paths leave a folder by ".." only where it is there from the
beginning. -/
structure Separate (reader : Manifest.Reader) (options : GenerateOptions) (disk : Disk)
    (manifests : List FilePath) : Prop where
  tree : disk.IsTree
  placed : ∀ manifest ∈ manifests, ∀ path ∈ options.ownPaths reader disk manifest,
    ∃ place, disk.placeOf? path = some place
  read : ∀ manifest ∈ manifests, ∃ place, disk.placeOf? manifest = some place ∧
    ∀ name ∈ place, name.utf8ByteSize ≤ nameLimit
  apart : manifests.Pairwise fun first second =>
    (options.footprint reader disk first).Spares (options.footprint reader disk second) ∧
    (options.footprint reader disk second).Spares (options.footprint reader disk first)

/-- Without setup files it is enough that the folders of the packages are apart. -/
theorem Separate.of_folders {manifests : List FilePath}
    (plain : options.destination.withSetup = false) (tree : disk.IsTree)
    (placed : ∀ manifest ∈ manifests, ∀ folder ∈ options.folder? reader disk manifest,
      ∃ place, disk.placeOf? folder = some place)
    (read : ∀ manifest ∈ manifests, ∃ place, disk.placeOf? manifest = some place ∧
      ∀ name ∈ place, name.utf8ByteSize ≤ nameLimit)
    (apart : manifests.Pairwise fun first second =>
      (options.outline reader disk first).Spares (options.outline reader disk second) ∧
      (options.outline reader disk second).Spares (options.outline reader disk first)) :
    Separate reader options disk manifests := by
  constructor
  · exact tree
  · intro manifest member path own
    obtain ⟨folder, found, name, known, rfl⟩ := GenerateOptions.mem_ownPaths plain own
    obtain ⟨place, leads⟩ := placed manifest member folder found
    exact ⟨place ++ [name], by
      rw [Package.placeOf?_join (List.mem_append_right _ known), leads, Option.map_some]⟩
  · exact read
  · apply apart.imp
    intro first second spares
    exact ⟨GenerateOptions.spares_of_outline plain spares.1,
      GenerateOptions.spares_of_outline plain spares.2⟩

def footprintAt (reader : Manifest.Reader) (options : GenerateOptions) (disk : Disk)
    (manifests : List FilePath) (index : Nat) : Footprint :=
  (manifests[index]?.map (options.footprint reader disk)).getD {}

variable {manifests : List FilePath}

theorem footprintAt_of_getElem? {index : Nat} (found : manifests[index]? = some manifest) :
    footprintAt reader options disk manifests index = options.footprint reader disk manifest := by
  rw [footprintAt, found]
  rfl

namespace Separate
variable (separate : Separate reader options disk manifests)
include separate

theorem spares (i j : Nat) (differ : i ≠ j) :
    (footprintAt reader options disk manifests i).Spares
      (footprintAt reader options disk manifests j) := by
  cases first : manifests[i]? with
  | none =>
      intro file member
      simp [footprintAt, first] at member
  | some manifest =>
      cases second : manifests[j]? with
      | none =>
          intro file _ place member
          simp [footprintAt, second, Footprint.places] at member
      | some other =>
          rw [footprintAt_of_getElem? first, footprintAt_of_getElem? second]
          obtain ⟨inside, rfl⟩ := List.getElem?_eq_some_iff.1 first
          obtain ⟨inside', rfl⟩ := List.getElem?_eq_some_iff.1 second
          rcases Nat.lt_or_gt_of_ne differ with before | after
          · exact (List.pairwise_iff_getElem.1 separate.apart i j inside inside' before).1
          · exact (List.pairwise_iff_getElem.1 separate.apart j i inside' inside after).2

/-- At the beginning every service keeps to its footprint. -/
theorem poised (producer : Producer) :
    ∃ effects, Program.Poised (footprintAt reader options disk manifests)
      (manifests.map (producer.serving reader options)) disk effects := by
  have keeps : ∀ index, ∃ effect : Effect,
      (∀ program : Program ServiceOutcome,
        (manifests.map (producer.serving reader options))[index]? = some program →
        program.ActsAs (footprintAt reader options disk manifests index) disk effect) ∧
      ((manifests.map (producer.serving reader options))[index]? = none → effect = .none) := by
    intro index
    rw [List.getElem?_map]
    cases found : manifests[index]? with
    | none =>
        refine ⟨.none, ?_, fun _ => rfl⟩
        intro program absent
        cases absent
    | some manifest =>
        have member := List.mem_of_getElem? found
        obtain ⟨effect, acts⟩ := producer.keeps_serving separate.tree
          (separate.read manifest member) (separate.placed manifest member)
        refine ⟨effect, ?_, ?_⟩
        · intro program same
          cases same
          rw [footprintAt_of_getElem? found]
          exact acts
        · intro absent
          cases absent
  choose effects acts idle using keeps
  exact ⟨effects, separate.tree, acts, idle⟩

end Separate

theorem returns_serving (manifests : List FilePath) :
    Program.returns (manifests.map (producer.serving reader options)) disk =
      manifests.map fun manifest => (producer.generateService reader options manifest disk).2 := by
  simp only [Program.returns, List.map_map, Function.comp_def, run_serving]

/-- The disk is put together from what the services leave when each is the only one. -/
structure Merges (producer : Producer) (reader : Manifest.Reader) (options : GenerateOptions)
    (disk : Disk) (manifests : List FilePath) (final : Disk) : Prop where
  files : ∀ manifest ∈ manifests, ∀ place ∈ (options.footprint reader disk manifest).files,
    final.entry? place = entry? (producer.generateService reader options manifest disk).1 place
  changed : ∀ manifest ∈ manifests, ∀ place,
    entry? (producer.generateService reader options manifest disk).1 place ≠ disk.entry? place →
    final.entry? place = entry? (producer.generateService reader options manifest disk).1 place
  unchanged : ∀ place, (∀ manifest ∈ manifests,
      entry? (producer.generateService reader options manifest disk).1 place = disk.entry? place) →
    final.entry? place = disk.entry? place

/-- No other disk is put together from the same services, in whatever order they are named. -/
theorem Merges.unique {order : List FilePath} {final final' : Disk}
    (merges : Merges producer reader options disk manifests final)
    (merges' : Merges producer reader options disk order final') (reordered : order.Perm manifests)
    (place : Place) : final'.entry? place = final.entry? place := by
  by_cases touched : ∃ manifest ∈ manifests,
      entry? (producer.generateService reader options manifest disk).1 place ≠ disk.entry? place
  · obtain ⟨manifest, member, differs⟩ := touched
    rw [merges.changed manifest member place differs,
      merges'.changed manifest (reordered.mem_iff.2 member) place differs]
  · have same : ∀ manifest ∈ manifests,
        entry? (producer.generateService reader options manifest disk).1 place = disk.entry? place :=
      fun manifest member => not_not.1 fun differs => touched ⟨manifest, member, differs⟩
    rw [merges.unchanged place same, merges'.unchanged place fun manifest member =>
      same manifest (reordered.mem_iff.1 member)]

/-- However the services take turns, each has its own outcome, and the disk is put together from
what each leaves. -/
theorem Separate.finished (separate : Separate reader options disk manifests)
    {outcomes : List ServiceOutcome} {reached : Disk}
    (turns : Program.Turns (manifests.map (producer.serving reader options), disk)
      (outcomes.map .done, reached)) :
    (outcomes = manifests.map fun manifest =>
      (producer.generateService reader options manifest disk).2) ∧
    Merges producer reader options disk manifests reached := by
  obtain ⟨effects, poised⟩ := separate.poised producer
  have spares := separate.spares
  obtain ⟨returned, left⟩ := poised.finished spares turns
  have served : ∀ manifest ∈ manifests, ∃ index : Nat,
      manifests[index]? = some manifest ∧
      (manifests.map (producer.serving reader options))[index]? =
        some (producer.serving reader options manifest) := by
    intro manifest member
    obtain ⟨index, found⟩ := List.mem_iff_getElem?.1 member
    exact ⟨index, found, by rw [List.getElem?_map, found]; rfl⟩
  refine ⟨returned.trans (returns_serving manifests), ?_, ?_, ?_⟩
  · intro manifest member place inside
    obtain ⟨index, found, here⟩ := served manifest member
    rw [← footprintAt_of_getElem? found] at inside
    have own := poised.leaves_own spares here inside
    rw [run_serving] at own
    exact poised.leaves_unique spares (left place) own
  · intro manifest member place differs
    obtain ⟨index, found, here⟩ := served manifest member
    rw [← run_serving] at differs ⊢
    exact poised.leaves_unique spares (left place) (poised.leaves_changed here differs)
  · intro place same
    refine poised.leaves_unique spares (left place) (poised.leaves_unchanged ?_)
    intro program member
    obtain ⟨manifest, listed, rfl⟩ := List.mem_map.1 member
    rw [run_serving]
    exact same manifest listed

theorem turns_generateAll (producer : Producer) (reader : Manifest.Reader)
    (options : GenerateOptions) (manifests : List FilePath) (disk : Disk) :
    Program.Turns (manifests.map (producer.serving reader options), disk)
      ((producer.generateAll reader options manifests disk).2.map .done,
        (producer.generateAll reader options manifests disk).1) := by
  have turns := Program.turns_runAll (manifests.map (producer.serving reader options)) [] disk
  rwa [runAll_serving] at turns

theorem Separate.perm {order : List FilePath} (separate : Separate reader options disk manifests)
    (reordered : order.Perm manifests) : Separate reader options disk order := by
  constructor
  · exact separate.tree
  · exact fun manifest member => separate.placed manifest (reordered.mem_iff.1 member)
  · exact fun manifest member => separate.read manifest (reordered.mem_iff.1 member)
  · exact (reordered.pairwise_iff fun both => both.symm).2 separate.apart

/-- Services that are separate do not disturb each other. In one run each has the outcome, and
leaves the files, that it has and leaves when it is the only one. Whatever the order in which the
operations of the services follow each other, the run comes to an end, with the outcomes in the
order of the manifests and the disk as it is after generating one service after the other, in this
order of the manifests or in any other. -/
theorem generateAll_undisturbed (producer : Producer) (reader : Manifest.Reader)
    (options : GenerateOptions) (disk : Disk) (manifests : List FilePath)
    (separate : Separate reader options disk manifests) :
    let services := manifests.map (producer.serving reader options)
    let final := producer.generateAll reader options manifests disk
    (final.2 = manifests.map fun manifest =>
      (producer.generateService reader options manifest disk).2) ∧
    Merges producer reader options disk manifests final.1 ∧
    (∀ state, Program.Turns (services, disk) state →
      ∃ (outcomes : List ServiceOutcome) (reached : Disk),
        Program.Turns state (outcomes.map .done, reached)) ∧
    (∀ (outcomes : List ServiceOutcome) (reached : Disk),
      Program.Turns (services, disk) (outcomes.map .done, reached) →
      outcomes = final.2 ∧ ∀ place, reached.entry? place = entry? final.1 place) ∧
    ∀ order, order.Perm manifests →
      let other := producer.generateAll reader options order disk
      (other.2 = order.map fun manifest =>
        (producer.generateService reader options manifest disk).2) ∧
      ∀ place, entry? other.1 place = entry? final.1 place := by
  intro services final
  obtain ⟨alone, merges⟩ := separate.finished (producer.turns_generateAll reader options manifests disk)
  refine ⟨alone, merges, ?_, ?_, ?_⟩
  · intro state _
    exact Program.exists_turns state.1 state.2
  · intro outcomes reached turns
    obtain ⟨alone', merges'⟩ := separate.finished turns
    exact ⟨alone'.trans alone.symm, merges.unique merges' (List.Perm.refl manifests)⟩
  · intro order reordered other
    obtain ⟨alone', merges'⟩ :=
      (separate.perm reordered).finished (producer.turns_generateAll reader options order disk)
    exact ⟨alone', merges.unique merges' reordered⟩

def blanking : Producer where
  renderer := fun _ _ => .ok ""
  formatter := .passthrough

/-- Two manifests. A folder stands where the first service has a file, and of the second one only
the last file is missing. -/
def halfDone : Disk where
  entries :=
    [(["a.json"], .file (.text (bareText "a"))), (["b.json"], .file (.text (bareText "b"))),
     (["o"], .folder), (["o", "a"], .folder), (["o", "a", "version.py"], .folder),
     (["o", "b"], .folder)]
    ++ ["version.py", "__init__.pyi", "__init__.py", "__main__.py", "py.typed", "client.pyi"].map
      fun name => (["o", "b", name], .file (.text ""))

theorem isTree_halfDone : halfDone.IsTree :=
  isTree_of_entries (by decide +kernel)

theorem separate_halfDone : Separate bareReader { destination := { output := ⟨"o"⟩ } } halfDone
    [⟨"a.json"⟩, ⟨"b.json"⟩] := by
  apply Separate.of_folders rfl isTree_halfDone
  · simp only [← Option.isSome_iff_exists]
    decide +kernel
  · intro manifest member
    exact ⟨[manifest.text], by revert manifest; decide +kernel⟩
  · decide +kernel

/-- One service fails, and the other one writes what is missing, whenever it gets its turns. -/
theorem halfDone_undisturbed :
    let options : GenerateOptions := { destination := { output := ⟨"o"⟩ } }
    let manifests : List FilePath := [⟨"a.json"⟩, ⟨"b.json"⟩]
    Separate bareReader options halfDone manifests ∧
    ∀ (outcomes : List ServiceOutcome) (reached : Disk),
      Program.Turns (manifests.map (blanking.serving bareReader options), halfDone)
        (outcomes.map .done, reached) →
      outcomes.map (·.result.toOption) = [none, some [⟨"o/b/client.py"⟩]] ∧
      reached.entry? ["o", "b", "client.py"] = some (.file (.text "")) := by
  intro options manifests
  refine ⟨separate_halfDone, ?_⟩
  intro outcomes reached turns
  obtain ⟨-, -, -, same, -⟩ :=
    generateAll_undisturbed blanking bareReader options halfDone manifests separate_halfDone
  obtain ⟨rfl, entries⟩ := same outcomes reached turns
  rw [entries]
  decide +kernel

/-- As they are written, no path of a service is, or lies above or below, a path of another one, and
no manifest is one of the paths. -/
structure Unshared (reader : Manifest.Reader) (options : GenerateOptions) (disk : Disk)
    (manifests : List FilePath) : Prop where
  paths : manifests.Pairwise fun first second =>
    ∀ path ∈ options.ownPaths reader disk first, ∀ other ∈ options.ownPaths reader disk second,
      ¬ path.names <+: other.names ∧ ¬ other.names <+: path.names
  manifests : ∀ manifest ∈ manifests, ∀ other ∈ manifests,
    ∀ path ∈ options.ownPaths reader disk other, path.names ≠ manifest.names

theorem Unshared.of_folders {manifests : List FilePath}
    (plain : options.destination.withSetup = false)
    (folders : manifests.Pairwise fun first second =>
      ∀ folder ∈ options.folder? reader disk first, ∀ other ∈ options.folder? reader disk second,
        ¬ folder.names <+: other.names ∧ ¬ other.names <+: folder.names)
    (outside : ∀ manifest ∈ manifests, ∀ other ∈ manifests,
      ∀ folder ∈ options.folder? reader disk other, folder.names ≠ manifest.names.dropLast) :
    Unshared reader options disk manifests := by
  constructor
  · apply folders.imp
    intro first second apart path own other own'
    obtain ⟨folder, found, name, known, rfl⟩ := GenerateOptions.mem_ownPaths plain own
    obtain ⟨folder', found', name', known', rfl⟩ := GenerateOptions.mem_ownPaths plain own'
    rw [Package.names_join (List.mem_append_right _ known),
      Package.names_join (List.mem_append_right _ known')]
    exact Footprint.apart_append (apart folder found folder' found') [name] [name']
  · intro manifest member other member' path own same
    obtain ⟨folder, found, name, known, rfl⟩ := GenerateOptions.mem_ownPaths plain own
    rw [Package.names_join (List.mem_append_right _ known)] at same
    apply outside manifest member other member' folder found
    rw [← same, List.dropLast_concat]

def lone : Disk where
  entries := [(["a.json"], .file (.text (bareText "a")))]

/-- Services can be in each other's way although their paths, as they are written, are apart. A path
may leave a folder that another service makes, and a manifest may be looked for where another
service makes a folder or a file. -/
theorem unshared_disturbed :
    let results := fun outcomes : List ServiceOutcome =>
      outcomes.map fun outcome => outcome.result.mapError Failure.cause
    (let options : GenerateOptions := { destination := { output := ⟨"n/../o"⟩ } }
      let manifests : List FilePath := [⟨"a.json"⟩, ⟨"b.json"⟩]
      halfDone.IsTree ∧ Unshared bareReader options halfDone manifests ∧
      results (blanking.generateAll bareReader options manifests halfDone).2 =
        [.error (.disk .isADirectory), .ok [⟨"n/../o/b/client.py"⟩]] ∧
      results (manifests.map fun manifest =>
          (blanking.generateService bareReader options manifest halfDone).2) =
        [.error (.disk .isADirectory),
          .ok [⟨"n/../o/b/version.py"⟩, ⟨"n/../o/b/client.py"⟩]]) ∧
    (let options : GenerateOptions := { destination := { output := ⟨"o"⟩ } }
      let manifests : List FilePath := [⟨"a.json"⟩, ⟨"o"⟩, ⟨"o/a/version.py/b.json"⟩]
      lone.IsTree ∧ Unshared bareReader options lone manifests ∧
      results (blanking.generateAll bareReader options manifests lone).2.tail =
        [.error (.disk .isADirectory), .error (.disk .notADirectory)] ∧
      results (manifests.tail.map fun manifest =>
          (blanking.generateService bareReader options manifest lone).2) =
        [.error (.disk .notFound), .error (.disk .notFound)]) := by
  intro results
  constructor
  · intro options manifests
    refine ⟨isTree_halfDone, ?_, ?_, ?_⟩
    · apply Unshared.of_folders rfl
      · decide +kernel
      · decide +kernel
    · decide +kernel
    · decide +kernel
  · intro options manifests
    refine ⟨isTree_of_entries (by decide), ?_, ?_, ?_⟩
    · apply Unshared.of_folders rfl
      · decide +kernel
      · decide +kernel
    · decide +kernel
    · decide +kernel

end Producer

end ServiceStubs
