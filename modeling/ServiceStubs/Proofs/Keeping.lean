import ServiceStubs.Proofs.Turns
/-!
A service keeps to its footprint. It looks at and changes only what the paths of
its package and of its manifest lead to, whatever else is on the disk, as long as
no path leaves a folder that is not there.
-/

namespace ServiceStubs

open Disk

def Manifest.ownPaths (manifest : Manifest) (options : GenerateOptions) : List FilePath :=
  match manifest.build options.duplicatePolicy with
  | .error _ => []
  | .ok package =>
      (package.plan options.destination).map (·.path) ++ package.ownedPaths options.destination

namespace GenerateOptions

def ownPaths (options : GenerateOptions) (reader : Manifest.Reader) (disk : Disk)
    (manifest : FilePath) : List FilePath :=
  match Manifest.load reader disk manifest with
  | .error _ => []
  | .ok loaded => loaded.ownPaths options

def footprint (options : GenerateOptions) (reader : Manifest.Reader) (disk : Disk)
    (manifest : FilePath) : Footprint where
  manifest := disk.placeOf? manifest
  files := (options.ownPaths reader disk manifest).filterMap disk.placeOf?

end GenerateOptions

variable {α β : Type} {footprint : Footprint} {disk later : Disk} {path : FilePath}

namespace Program

theorem ActsAs.bind {program : Program α} {more : α → Program β} {first rest : Effect}
    (acts : program.ActsAs footprint disk first)
    (then' : (more (program.run disk).2).ActsAs footprint (program.run disk).1 rest) :
    (program.bind more).ActsAs footprint disk (rest.after first) := by
  induction program generalizing disk first with
  | done value =>
      cases acts
      rw [show rest.after .none = rest from funext fun place => Option.or_none]
      exact then'
  | call operation next ih =>
      obtain ⟨now, later, here, onwards, rfl⟩ := acts
      refine ⟨now, rest.after later, here, ih _ onwards then', ?_⟩
      exact funext fun place => Option.or_assoc.symm

def Keeps (footprint : Footprint) (program : Program α) (disk : Disk) : Prop :=
  ∃ effect, program.ActsAs footprint disk effect

theorem keeps_done (value : α) : (done value).Keeps footprint disk :=
  ⟨.none, rfl⟩

theorem keeps_call {operation : Operation} {next : operation.Answer → Program α}
    (acts : ∃ effect, operation.ActsAs footprint disk effect)
    (then' : (next (operation.perform disk).2).Keeps footprint (operation.perform disk).1) :
    (call operation next).Keeps footprint disk := by
  obtain ⟨first, acts⟩ := acts
  obtain ⟨rest, then'⟩ := then'
  exact ⟨rest.after first, first, rest, acts, then', rfl⟩

theorem Keeps.bind {program : Program α} {more : α → Program β}
    (keeps : program.Keeps footprint disk)
    (then' : (more (program.run disk).2).Keeps footprint (program.run disk).1) :
    (program.bind more).Keeps footprint disk := by
  obtain ⟨first, acts⟩ := keeps
  obtain ⟨rest, then'⟩ := then'
  exact ⟨rest.after first, acts.bind then'⟩

theorem Keeps.run {program : Program α} (keeps : program.Keeps footprint disk)
    (tree : disk.IsTree) : IsTree (program.run disk).1 ∧ disk.Grows (program.run disk).1 := by
  obtain ⟨effect, acts⟩ := keeps
  obtain ⟨reached, grows, -⟩ := acts.run tree
  exact ⟨reached, grows⟩

section
variable {good : α → Disk → Prop}
  (stays : ∀ item disk later, good item disk → disk.Grows later → good item later)
include stays

theorem keeps_forEach {step : α → Program (Except Failure FileEvent)}
    (keeps : ∀ item disk, disk.IsTree → good item disk → (step item).Keeps footprint disk)
    (items : List α) (tree : disk.IsTree) (all : ∀ item ∈ items, good item disk) :
    (forEach step items).Keeps footprint disk := by
  induction items generalizing disk with
  | nil => exact keeps_done _
  | cons item rest ih =>
      have first := keeps item disk tree (all item List.mem_cons_self)
      obtain ⟨reached, grows⟩ := first.run tree
      refine first.bind ?_
      cases ((step item).run disk).2 with
      | error failure => exact keeps_done _
      | ok event =>
          -- What is good for the items that are left is so on the disk that is reached.
          refine (ih reached fun other member => ?_).bind (keeps_done _)
          exact stays other disk _ (all other (List.mem_cons_of_mem item member)) grows

theorem keeps_select {ask : α → Program Bool}
    (keeps : ∀ item disk, disk.IsTree → good item disk → (ask item).Keeps footprint disk)
    (items : List α) (tree : disk.IsTree) (all : ∀ item ∈ items, good item disk) :
    (select ask items).Keeps footprint disk := by
  induction items generalizing disk with
  | nil => exact keeps_done _
  | cons item rest ih =>
      have first := keeps item disk tree (all item List.mem_cons_self)
      obtain ⟨reached, grows⟩ := first.run tree
      refine first.bind ((ih reached fun other member => ?_).bind (keeps_done _))
      exact stays other disk _ (all other (List.mem_cons_of_mem item member)) grows

end

end Program

def Holds (footprint : Footprint) (path : FilePath) (disk : Disk) : Prop :=
  ∃ folder name, Held footprint disk path folder name

theorem Holds.grows (path : FilePath) (disk later : Disk) (holds : Holds footprint path disk)
    (grows : disk.Grows later) : Holds footprint path later := by
  obtain ⟨folder, name, held⟩ := holds
  exact ⟨folder, name, held.grows grows⟩

theorem RenderedFile.keeps_writing (file : RenderedFile) (disk : Disk) (tree : disk.IsTree)
    (holds : Holds footprint file.path disk) : file.writing.Keeps footprint disk := by
  obtain ⟨folder, name, held⟩ := holds
  refine Program.keeps_call ⟨_, .compare tree held.member held.leads⟩ ?_
  simp only [Operation.perform]
  cases file.isChanged disk with
  | false => exact Program.keeps_done _
  | true =>
      obtain ⟨effect, prepares⟩ := Operation.ActsAs.prepare held tree
      refine Program.keeps_call ⟨effect, prepares⟩ ?_
      cases answer : ((Operation.prepare file).perform disk).2 with
      | error failure => exact Program.keeps_done _
      | ok done =>
          have reached := prepares.isTree disk tree (.refl footprint disk)
          have present := Operation.ActsAs.folder_of_prepare held tree answer
          have stores := Operation.ActsAs.store (held.grows (prepares.grows tree)) reached present
          exact Program.keeps_call stores (Program.keeps_done _)

def Removable (footprint : Footprint) (path : FilePath) (disk : Disk) : Prop :=
  ∃ folder name, Held footprint disk path folder name ∧ disk.entry? folder = some .folder

theorem Removable.grows (path : FilePath) (disk later : Disk)
    (removable : Removable footprint path disk) (grows : disk.Grows later) :
    Removable footprint path later := by
  obtain ⟨folder, name, held, present⟩ := removable
  exact ⟨folder, name, held.grows grows, grows folder present⟩

theorem Removable.keeps_remove (path : FilePath) (disk : Disk) (tree : disk.IsTree)
    (removable : Removable footprint path disk) :
    (Program.call (.remove path) .done).Keeps footprint disk := by
  obtain ⟨folder, name, held, present⟩ := removable
  exact Program.keeps_call (Operation.ActsAs.remove held tree present) (Program.keeps_done _)

theorem removable_of_isFile (tree : disk.IsTree) (holds : Holds footprint path disk)
    (present : disk.isFile path = true) : Removable footprint path disk := by
  obtain ⟨folder, name, held⟩ := holds
  refine ⟨folder, name, held, ?_⟩
  cases there : disk.entry? (folder ++ [name]) with
  | some entry => exact (tree folder name entry there).1
  | none =>
      rw [isFile] at present
      cases accepted : refusal? path with
      | some problem =>
          rw [stat_refused accepted] at present
          cases present
      | none =>
          rw [stat_eq tree accepted held.leads, there] at present
          cases present

theorem Program.keeps_present (paths : List FilePath) (tree : disk.IsTree)
    (all : ∀ path ∈ paths, Holds footprint path disk) : (present paths).Keeps footprint disk := by
  refine keeps_select Holds.grows (fun path disk tree holds => ?_) paths tree all
  obtain ⟨folder, name, held⟩ := holds
  exact keeps_call ⟨_, .look tree held.member held.leads⟩ (keeps_done _)

theorem Program.keeps_changed (files : List RenderedFile) (tree : disk.IsTree)
    (all : ∀ file ∈ files, Holds footprint file.path disk) :
    (changed files).Keeps footprint disk := by
  refine keeps_select (fun file => Holds.grows file.path) (fun file disk tree holds => ?_) files tree
    all
  obtain ⟨folder, name, held⟩ := holds
  exact keeps_call ⟨_, .compare tree held.member held.leads⟩ (keeps_done _)

namespace Package
variable {package : Package} {destination : Destination}

theorem keeps_writing (tree : disk.IsTree) {files : List RenderedFile}
    (planned : ∀ file ∈ files, Holds footprint file.path disk)
    (unplanned : ∀ path ∈ package.unplannedPaths destination, Holds footprint path disk) :
    (package.writing destination files).Keeps footprint disk := by
  have wrote : (Program.forEach RenderedFile.writing files).Keeps footprint disk :=
    Program.keeps_forEach (fun file => Holds.grows file.path) RenderedFile.keeps_writing files tree
      planned
  obtain ⟨reached, grows⟩ := wrote.run tree
  refine wrote.bind ?_
  generalize (Program.forEach RenderedFile.writing files).run disk = outcome at reached grows ⊢
  obtain ⟨later, written⟩ := outcome
  cases written.failure? with
  | some failure => exact Program.keeps_done _
  | none =>
      have holds : ∀ path ∈ package.unplannedPaths destination, Holds footprint path later :=
        fun path member => Holds.grows path disk later (unplanned path member) grows
      refine (Program.keeps_present _ reached holds).bind ?_
      rw [Program.run_present]
      refine Program.Keeps.bind ?_ (Program.keeps_done _)
      refine Program.keeps_forEach Removable.grows Removable.keeps_remove _ reached ?_
      intro path member
      obtain ⟨listed, there⟩ := List.mem_filter.1 member
      exact removable_of_isFile reached (holds path listed) there

end Package

/-! ## Services -/

namespace Package

theorem names_of_mem : ∀ name ∈ setupNames ++ fileNames, (FilePath.mk name).names = [name] ∧
    (FilePath.mk name).endsInName = true ∧ name ≠ ".." ∧ name.utf8ByteSize ≤ Disk.nameLimit := by
  decide

section
variable {folder : FilePath} {name : String} (member : name ∈ setupNames ++ fileNames)
include member

theorem names_join : (folder.join ⟨name⟩).names = folder.names ++ [name] := by
  rw [FilePath.names_join folder (relative_of_mem_names name member), (names_of_mem name member).1]

theorem placeOf?_join : disk.placeOf? (folder.join ⟨name⟩) =
    (disk.placeOf? folder).map (· ++ [name]) := by
  obtain ⟨-, -, down, -⟩ := names_of_mem name member
  rw [placeOf?, placeOf?, names_join member, follow_append,
    FilePath.isAbsolute_join folder (relative_of_mem_names name member)]
  simp only [follow, if_neg down]
  exact Option.map_eq_bind.symm

theorem holds_join {place : Place} (found : disk.placeOf? (folder.join ⟨name⟩) = some place)
    (inside : place ∈ footprint.files) : Holds footprint (folder.join ⟨name⟩) disk := by
  obtain ⟨-, ends, down, short⟩ := names_of_mem name member
  obtain ⟨lower, -, rfl⟩ := Option.map_eq_some_iff.1 (placeOf?_join member ▸ found)
  exact ⟨lower, name, found, inside,
    FilePath.endsInName_join folder (relative_of_mem_names name member) ends,
    by rw [names_join member, List.getLast?_concat], down, short⟩

end

theorem holds_of_touches {package : Package} {destination : Destination} {place : Place}
    (touches : package.Touches destination path) (found : disk.placeOf? path = some place)
    (inside : place ∈ footprint.files) : Holds footprint path disk := by
  rcases touches_iff_names.1 touches with setup | ⟨name, member, rfl⟩
  · rw [setupPlan_paths] at setup
    obtain ⟨name, member, rfl⟩ := List.mem_map.1 setup
    have known : name ∈ setupNames := by
      split at member
      · exact member
      · cases member
    exact holds_join (List.mem_append_left _ known) found inside
  · exact holds_join (List.mem_append_right _ member) found inside

end Package

namespace Producer
variable {producer : Producer} {reader : Manifest.Reader} {options : GenerateOptions}
  {manifest : FilePath}

theorem keeps_putting {package : Package} (tree : disk.IsTree)
    (holds : ∀ path, package.Touches options.destination path → Holds footprint path disk) :
    (producer.putting options package).Keeps footprint disk := by
  unfold putting
  cases outcome : producer.render package options.destination with
  | error failure => exact Program.keeps_done _
  | ok files =>
      have planned : ∀ file ∈ files, Holds footprint file.path disk := by
        intro file member
        apply holds
        left
        rw [← render_paths outcome]
        exact List.mem_map_of_mem member
      simp only
      split
      · exact (Program.keeps_changed files tree planned).bind (Program.keeps_done _)
      · refine (Package.keeps_writing tree planned fun path member => ?_).bind (Program.keeps_done _)
        exact holds path (Or.inr (List.mem_filter.1 member).1)

/-- A service keeps to its footprint. -/
theorem keeps_serving (producer : Producer) (tree : disk.IsTree)
    (read : ∃ place, disk.placeOf? manifest = some place ∧
      ∀ name ∈ place, name.utf8ByteSize ≤ nameLimit)
    (placed : ∀ path ∈ options.ownPaths reader disk manifest,
      ∃ place, disk.placeOf? path = some place) :
    (producer.serving reader options manifest).Keeps (options.footprint reader disk manifest)
      disk := by
  obtain ⟨place, leads, short⟩ := read
  have reads : (Operation.read manifest).ActsAs (options.footprint reader disk manifest) disk
      .none := .read tree leads leads short
  refine Program.keeps_call ⟨.none, reads⟩ ?_
  simp only [Operation.perform]
  cases loaded : Manifest.ofFile reader manifest (Storage.readText disk manifest) with
  | error failure => exact Program.keeps_done _
  | ok given =>
      simp only
      cases built : given.build options.duplicatePolicy with
      | error problem => exact Program.keeps_done _
      | ok package =>
          refine Program.Keeps.bind (keeps_putting tree fun path touches => ?_)
            (Program.keeps_done _)
          have owned : path ∈ options.ownPaths reader disk manifest := by
            simp only [GenerateOptions.ownPaths, Manifest.load, loaded, Manifest.ownPaths, built]
            exact List.mem_append.2 touches
          obtain ⟨place, found⟩ := placed path owned
          exact Package.holds_of_touches touches found
            (List.mem_filterMap.2 ⟨path, owned, found⟩)

end Producer

end ServiceStubs
