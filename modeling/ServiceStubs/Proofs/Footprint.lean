import Mathlib.Data.List.Find
import ServiceStubs.Proofs.Folders
import ServiceStubs.Proofs.Interleaving
/-!
What an operation depends on and what it changes. An operation of a service looks
at the entries of the service's own places and on the way to them. On every disk
that agrees there, up to folders that others have made on the way, it gives the
same answer and changes the same places to the same entries.
-/

namespace ServiceStubs

open Disk

structure Footprint where
  manifest : Option Place := none
  files : List Place := []

namespace Footprint

def places (footprint : Footprint) : List Place :=
  footprint.manifest.toList ++ footprint.files

theorem mem_places_of_mem_files {footprint : Footprint} {place : Place}
    (member : place ∈ footprint.files) : place ∈ footprint.places :=
  List.mem_append_right _ member

/-- No file of one service is what the other one depends on, or on the way to it or below it. -/
def Spares (footprint other : Footprint) : Prop :=
  ∀ file ∈ footprint.files, ∀ place ∈ other.places, ¬ file <+: place ∧ ¬ place <+: file

instance (footprint other : Footprint) : Decidable (footprint.Spares other) :=
  inferInstanceAs (Decidable (∀ file ∈ footprint.files, ∀ place ∈ other.places,
    ¬ file <+: place ∧ ¬ place <+: file))

/-- What lies below places that are apart is apart. -/
theorem apart_append {place other : Place} (apart : ¬ place <+: other ∧ ¬ other <+: place)
    (rest rest' : List String) :
    ¬ place ++ rest <+: other ++ rest' ∧ ¬ other ++ rest' <+: place ++ rest := by
  constructor
  · intro part
    have below := (List.prefix_append place rest).trans part
    rcases List.prefix_or_prefix_of_prefix below (List.prefix_append other rest') with first | second
    · exact apart.1 first
    · exact apart.2 second
  · intro part
    have below := (List.prefix_append other rest').trans part
    rcases List.prefix_or_prefix_of_prefix below (List.prefix_append place rest) with first | second
    · exact apart.2 first
    · exact apart.1 second

end Footprint

/-- What a service sees of a disk has not changed, except that folders may have been made on the
way to its places. -/
structure Sees (footprint : Footprint) (disk later : Disk) : Prop where
  same : ∀ place ∈ footprint.places, later.entry? place = disk.entry? place
  above : ∀ place ∈ footprint.places, ∀ lower, lower <+: place → lower ≠ place →
    later.entry? lower = disk.entry? lower ∨
      disk.entry? lower = none ∧ later.entry? lower = some .folder
  grows : disk.Grows later

variable {footprint other : Footprint} {disk later : Disk} {place lower : Place} {path : FilePath}

theorem isFile_eq_toOption (disk : Disk) (path : FilePath) :
    disk.isFile path = match (disk.stat path).toOption with
      | some (_, .file _) => true
      | _ => false := by
  unfold isFile
  cases disk.stat path with
  | error problem => rfl
  | ok found =>
      obtain ⟨place, entry⟩ := found
      cases entry <;> rfl

theorem isChanged_eq_toOption (file : RenderedFile) (disk : Disk) :
    file.isChanged disk = match (disk.stat file.path).toOption with
      | some (_, .file (.text existing)) => decide (existing ≠ file.content)
      | _ => true := by
  simp only [RenderedFile.isChanged, Storage.readText, readText]
  cases disk.stat file.path with
  | error problem => rfl
  | ok found =>
      obtain ⟨place, entry⟩ := found
      cases entry with
      | folder => rfl
      | file content => cases content <;> rfl

namespace Sees

theorem refl (footprint : Footprint) (disk : Disk) : Sees footprint disk disk :=
  ⟨fun _ _ => rfl, fun _ _ _ _ _ => Or.inl rfl, fun _ folder => folder⟩

theorem trans {last : Disk} (first : Sees footprint disk later) (second : Sees footprint later last) :
    Sees footprint disk last := by
  constructor
  · intro place member
    rw [second.same place member, first.same place member]
  · intro place member lower part apart
    rcases second.above place member lower part apart with same | ⟨missing, made⟩
    · rw [same]
      exact first.above place member lower part apart
    · rcases first.above place member lower part apart with same | ⟨-, made'⟩
      · exact Or.inr ⟨by rw [← same, missing], made⟩
      · rw [made'] at missing
        cases missing
  · exact fun place folder => second.grows place (first.grows place folder)

theorem toward (sees : Sees footprint disk later) (member : place ∈ footprint.places)
    (part : lower <+: place) : later.entry? lower = disk.entry? lower ∨
      disk.entry? lower = none ∧ later.entry? lower = some .folder := by
  by_cases same : lower = place
  · rw [same]
    exact Or.inl (sees.same place member)
  · exact sees.above place member lower part same

/-- On the way to a place there are files on both disks or on none. -/
theorem file_iff (sees : Sees footprint disk later) (member : place ∈ footprint.places)
    (part : lower <+: place) (content : Content) :
    later.entry? lower = some (.file content) ↔ disk.entry? lower = some (.file content) := by
  rcases sees.toward member part with equal | ⟨missing, made⟩
  · rw [equal]
  · simp [missing, made]

theorem firstBlock_eq (sees : Sees footprint disk later) (member : place ∈ footprint.places)
    (part : lower <+: place) : later.firstBlock lower = disk.firstBlock lower := by
  apply List.find?_congr
  intro deeper inside
  have deeper_part := ((List.mem_inits _ _).1 inside).trans part
  unfold blocks
  rcases sees.toward member deeper_part with equal | ⟨missing, made⟩
  · rw [equal]
  · rw [missing, made]

theorem folderAnswer_eq (sees : Sees footprint disk later) (member : place ∈ footprint.places)
    (part : lower <+: place) : later.folderAnswer lower = disk.folderAnswer lower := by
  rw [folderAnswer, folderAnswer, sees.firstBlock_eq member part]

section
variable (sees : Sees footprint disk later) (tree : disk.IsTree) (laterTree : later.IsTree)
  (member : place ∈ footprint.places) (leads : disk.placeOf? path = some place)
include sees tree laterTree member leads

/-- Whether there is anything at a path, and what, is the same on both disks. -/
theorem toOption_stat : (later.stat path).toOption = (disk.stat path).toOption := by
  cases accepted : refusal? path with
  | some problem => rw [stat_refused accepted, stat_refused accepted]
  | none =>
      rw [stat_eq laterTree accepted (sees.grows.follow leads), stat_eq tree accepted leads,
        sees.same place member]
      cases disk.entry? place with
      | none => rfl
      | some entry => cases entry <;> rfl

theorem isFile_eq : later.isFile path = disk.isFile path := by
  rw [isFile_eq_toOption, isFile_eq_toOption, toOption_stat sees tree laterTree member leads]

/-- Also why a file cannot be read is the same, when no name on the way to it is too long. -/
theorem readText_eq (short : ∀ name ∈ place, name.utf8ByteSize ≤ nameLimit) :
    later.readText path = disk.readText path := by
  have same : later.stat path = disk.stat path := by
    cases accepted : refusal? path with
    | some problem => rw [stat_refused accepted, stat_refused accepted]
    | none =>
        have equal := sees.same place member
        rw [stat_eq laterTree accepted (sees.grows.follow leads), stat_eq tree accepted leads,
          equal]
        cases present : disk.entry? place with
        | some entry => cases entry <;> rfl
        | none =>
            obtain ⟨files, others⟩ := barrier_of_absent tree present short
            obtain ⟨files', others'⟩ := barrier_of_absent laterTree (equal.trans present) short
            -- Only a file on the way tells two reasons apart, and files on the way are the same.
            have iff : (later.barrier place).getD .notFound = .notADirectory ↔
                (disk.barrier place).getD .notFound = .notADirectory := by
              rw [files, files']
              refine exists_congr fun lower => exists_congr fun content => and_congr_right ?_
              exact fun part => sees.file_iff member part content
            have equal : (later.barrier place).getD .notFound =
                (disk.barrier place).getD .notFound := by
              rcases others with filed | missing
              · rw [filed, iff.2 filed]
              · rcases others' with filed | missing'
                · rw [filed, iff.1 filed]
                · rw [missing, missing']
            rw [equal]
  rw [readText, readText, same]

end

theorem isChanged_eq {file : RenderedFile} (sees : Sees footprint disk later) (tree : disk.IsTree)
    (laterTree : later.IsTree) (member : place ∈ footprint.places)
    (leads : disk.placeOf? file.path = some place) : file.isChanged later = file.isChanged disk := by
  rw [isChanged_eq_toOption, isChanged_eq_toOption, toOption_stat sees tree laterTree member leads]

end Sees

/-! ## Effects -/

abbrev Effect := Place → Option (Option DiskEntry)

namespace Effect

def none : Effect := fun _ => .none

def after (second first : Effect) : Effect := fun place => (second place).or (first place)

end Effect

/-- On every disk that looks like `disk` to the service, the operation gives the same answer and has
the same effect, on the files of the service and on folders that lead to them. -/
structure Operation.ActsAs (footprint : Footprint) (operation : Operation) (disk : Disk)
    (effect : Effect) : Prop where
  answer : ∀ later : Disk, later.IsTree → Sees footprint disk later →
    (operation.perform later).2 = (operation.perform disk).2
  entries : ∀ later : Disk, later.IsTree → Sees footprint disk later → ∀ place,
    entry? (operation.perform later).1 place = (effect place).getD ( later.entry? place)
  isTree : ∀ later : Disk, later.IsTree → Sees footprint disk later →
    IsTree (operation.perform later).1
  within : ∀ place change, effect place = some change →
    place ∈ footprint.files ∧ disk.entry? place ≠ some .folder ∧ change ≠ some .folder ∨
    change = some .folder ∧ disk.entry? place ∈ [.none, some .folder] ∧
      ∃ file ∈ footprint.files, place <+: file ∧ place ≠ file

namespace Operation.ActsAs
variable {operation : Operation} {effect : Effect}

/-- An operation that only looks. -/
theorem of_looking (tree : disk.IsTree) (answer : operation.Answer)
    (performed : ∀ later : Disk, later.IsTree → Sees footprint disk later →
      operation.perform later = (later, answer)) :
    operation.ActsAs footprint disk .none := by
  constructor
  · intro later laterTree sees
    rw [performed later laterTree sees, performed disk tree (.refl footprint disk)]
  · intro later laterTree sees place
    rw [performed later laterTree sees]
    rfl
  · intro later laterTree sees
    rwa [performed later laterTree sees]
  · intro place change changed
    cases changed

theorem read {manifest : FilePath} (tree : disk.IsTree)
    (member : footprint.manifest = some place) (leads : disk.placeOf? manifest = some place)
    (short : ∀ name ∈ place, name.utf8ByteSize ≤ nameLimit) :
    (Operation.read manifest).ActsAs footprint disk .none := by
  apply of_looking tree (Storage.readText disk manifest)
  intro later laterTree sees
  have inside : place ∈ footprint.places := by simp [Footprint.places, member]
  exact congrArg (Prod.mk later) (sees.readText_eq tree laterTree inside leads short)

theorem compare {file : RenderedFile} (tree : disk.IsTree) (member : place ∈ footprint.files)
    (leads : disk.placeOf? file.path = some place) :
    (Operation.compare file).ActsAs footprint disk .none := by
  apply of_looking tree (file.isChanged disk)
  intro later laterTree sees
  simp only [perform,
    sees.isChanged_eq tree laterTree (Footprint.mem_places_of_mem_files member) leads]

theorem look (tree : disk.IsTree) (member : place ∈ footprint.files)
    (leads : disk.placeOf? path = some place) :
    (Operation.look path).ActsAs footprint disk .none := by
  apply of_looking tree (disk.isFile path)
  intro later laterTree sees
  simp only [perform, Storage.isFile,
    sees.isFile_eq tree laterTree (Footprint.mem_places_of_mem_files member) leads]

end Operation.ActsAs

structure Held (footprint : Footprint) (disk : Disk) (path : FilePath) (folder : Place)
    (name : String) : Prop where
  leads : disk.placeOf? path = some (folder ++ [name])
  member : folder ++ [name] ∈ footprint.files
  named : path.endsInName = true
  last : path.names.getLast? = some name
  down : name ≠ ".."
  short : name.utf8ByteSize ≤ nameLimit

namespace Held
variable {folder : Place} {name : String}

theorem grows (held : Held footprint disk path folder name) (grows : disk.Grows later) :
    Held footprint later path folder name :=
  { held with leads := grows.follow held.leads }

theorem parent (held : Held footprint disk path folder name) :
    ∃ parent, path.parent = some parent ∧ disk.placeOf? parent = some folder := by
  obtain ⟨before, whole⟩ := List.getLast?_eq_some_iff.1 held.last
  cases found : path.parent with
  | none =>
      have nothing := FilePath.names_of_parent_none found
      simp [nothing] at whole
  | some parent =>
      obtain ⟨lower, leads, last⟩ := placeOf?_parent found held.leads whole
      rw [follow, if_neg held.down] at last
      have same : lower ++ [name] = folder ++ [name] := Option.some.inj last
      rw [List.append_cancel_right same] at leads
      exact ⟨parent, rfl, leads⟩

theorem member_places (held : Held footprint disk path folder name) :
    folder ++ [name] ∈ footprint.places :=
  Footprint.mem_places_of_mem_files held.member

theorem barrier_eq_none (held : Held footprint disk path folder name) (tree : disk.IsTree)
    (present : disk.entry? folder = some .folder) : disk.barrier (folder ++ [name]) = none :=
  barrier_append_eq_none present (tree.barrier_eq_none present) held.short

end Held

theorem prepare_eq {file : RenderedFile} {parent : FilePath}
    (found : file.path.parent = some parent) (disk : Disk) :
    file.prepare disk = ((disk.makeFolders parent).1,
      diskStep ("Failed to create directory " ++ parent.text) (disk.makeFolders parent).2) := by
  rw [RenderedFile.prepare, found]
  rfl

/-- A folder that leads to a file is made with those around it, unless its path is refused. -/
theorem makeFolders_cases {folder : Place} {parent : FilePath} (found : path.parent = some parent)
    (leads : disk.placeOf? parent = some folder) :
    (∃ problem, ∀ later : Disk, later.makeFolders parent = (later, .error problem)) ∨
    ∀ later : Disk, later.IsTree → disk.Grows later →
      Makes later folder (later.makeFolders parent) := by
  by_cases accepted : parent.parent = none ∨ refusal? parent = none
  · refine Or.inr fun later tree grows => ?_
    exact makeFolders_makes tree (grows.follow leads) (FilePath.parent_ends found) accepted
  · obtain ⟨inner, refused⟩ := not_or.1 accepted
    obtain ⟨problem, refused⟩ := Option.ne_none_iff_exists'.1 refused
    exact Or.inl ⟨problem, fun later => makeFolders_refused inner refused⟩

namespace Operation.ActsAs
variable {folder : Place} {name : String} {file : RenderedFile}

theorem prepare (held : Held footprint disk file.path folder name) (tree : disk.IsTree) :
    ∃ effect, (Operation.prepare file).ActsAs footprint disk effect := by
  obtain ⟨parent, found, leads⟩ := held.parent
  rcases makeFolders_cases found leads with ⟨problem, refused⟩ | makes
  · refine ⟨.none, of_looking tree
      (diskStep ("Failed to create directory " ++ parent.text) (.error problem)) ?_⟩
    intro later _ _
    simp only [perform, prepare_eq found, refused]
  · refine ⟨fun lower => if lower <+: folder ∧ disk.firstBlock lower = none then
      some (some .folder) else none, ?_, ?_, ?_, ?_⟩
    · intro later laterTree sees
      have part := (on_way name (List.prefix_refl folder)).1
      have answer := (makes later laterTree sees.grows).answer
      rw [sees.folderAnswer_eq held.member_places part] at answer
      simp only [perform, prepare_eq found, answer,
        (makes disk tree fun _ folder => folder).answer]
    · intro later laterTree sees lower
      simp only [perform, prepare_eq found, (makes later laterTree sees.grows).entries]
      by_cases part : lower <+: folder
      · rw [sees.firstBlock_eq held.member_places (on_way name part).1]
        split <;> rfl
      · simp [part]
    · intro later laterTree sees
      simp only [perform, prepare_eq found]
      exact (makes later laterTree sees.grows).isTree laterTree
    · intro lower change changed
      split at changed
      · rename_i made
        cases changed
        obtain ⟨part, clear⟩ := made
        exact Or.inr ⟨rfl, entry?_of_firstBlock clear, folder ++ [name], held.member,
          on_way name part⟩
      · cases changed

/-- Once the folder is prepared, it is there. -/
theorem folder_of_prepare (held : Held footprint disk file.path folder name) (tree : disk.IsTree)
    (prepared : ((Operation.prepare file).perform disk).2 = .ok ()) :
    entry? ((Operation.prepare file).perform disk).1 folder = some .folder := by
  obtain ⟨parent, found, leads⟩ := held.parent
  simp only [perform, prepare_eq found] at prepared ⊢
  rcases makeFolders_cases found leads with ⟨problem, refused⟩ | makes
  · rw [refused] at prepared
    cases prepared
  · have made := makes disk tree fun _ folder => folder
    generalize disk.makeFolders parent = outcome at made prepared ⊢
    obtain ⟨reached, answer⟩ := outcome
    cases answer with
    | error problem => cases prepared
    | ok done => exact made.entry?_eq_folder

/-- An operation that changes the entry of one file, whose folder is there. -/
theorem of_changing {operation : Operation} {change : Option DiskEntry} {changed : Disk → Disk}
    (held : Held footprint disk path folder name) (tree : disk.IsTree)
    (present : disk.entry? folder = some .folder)
    (closed : disk.entry? (folder ++ [name]) ≠ some .folder) (filed : change ≠ some .folder)
    (answer : operation.Answer)
    (performed : ∀ later : Disk, later.IsTree → Sees footprint disk later →
      operation.perform later = (changed later, answer))
    (entries : ∀ (later : Disk) place, entry? (changed later) place =
      if place = folder ++ [name] then change else later.entry? place) :
    ∃ effect, operation.ActsAs footprint disk effect := by
  refine ⟨fun place => if place = folder ++ [name] then some change else none, ?_, ?_, ?_, ?_⟩
  · intro later laterTree sees
    rw [performed later laterTree sees, performed disk tree (.refl footprint disk)]
  · intro later laterTree sees place
    rw [performed later laterTree sees, entries]
    split <;> rfl
  · intro later laterTree sees
    rw [performed later laterTree sees]
    have same := sees.same _ held.member_places
    exact laterTree.change (sees.grows folder present) (same ▸ closed) held.short (entries later)
  · intro place became changes
    split at changes
    · rename_i same
      cases changes
      rw [same]
      exact Or.inl ⟨held.member, closed, filed⟩
    · cases changes

section
variable (held : Held footprint disk path folder name) (present : disk.entry? folder = some .folder)
include held present

theorem writeText_cases (text : String) :
    (∃ problem, ∀ later : Disk, later.IsTree → Sees footprint disk later →
      later.writeText path text = .error problem) ∨
    disk.entry? (folder ++ [name]) ≠ some .folder ∧
      ∀ later : Disk, later.IsTree → Sees footprint disk later →
        later.writeText path text = .ok (later.set (folder ++ [name]) (.file (.text text))) := by
  cases accepted : refusal? path with
  | some problem =>
      refine Or.inl ⟨problem, fun later _ _ => ?_⟩
      rw [writeText, writeContent, locate_refused accepted]
  | none =>
      have written : ∀ later : Disk, later.IsTree → Sees footprint disk later →
          later.writeText path text =
            if disk.entry? (folder ++ [name]) = some .folder then .error .isADirectory
            else .ok (later.set (folder ++ [name]) (.file (.text text))) := by
        intro later laterTree sees
        have clear := (held.grows sees.grows).barrier_eq_none laterTree (sees.grows folder present)
        rw [← sees.same _ held.member_places]
        exact writeText_eq laterTree accepted (sees.grows.follow held.leads) held.named clear text
      by_cases blocked : disk.entry? (folder ++ [name]) = some .folder
      · simp only [if_pos blocked] at written
        exact Or.inl ⟨_, written⟩
      · simp only [if_neg blocked] at written
        exact Or.inr ⟨blocked, written⟩

theorem removeFile_cases :
    (∃ problem, ∀ later : Disk, later.IsTree → Sees footprint disk later →
      later.removeFile path = .error problem) ∨
    disk.entry? (folder ++ [name]) ≠ some .folder ∧
      ∀ later : Disk, later.IsTree → Sees footprint disk later →
        later.removeFile path = .ok (later.erase (folder ++ [name])) := by
  cases accepted : refusal? path with
  | some problem =>
      refine Or.inl ⟨problem, fun later _ _ => ?_⟩
      rw [removeFile, stat_refused accepted]
  | none =>
      have removed : ∀ later : Disk, later.IsTree → Sees footprint disk later →
          later.removeFile path =
            later.removal (folder ++ [name]) (disk.entry? (folder ++ [name])) := by
        intro later laterTree sees
        have clear := (held.grows sees.grows).barrier_eq_none laterTree (sees.grows folder present)
        rw [← sees.same _ held.member_places]
        exact removeFile_eq laterTree accepted (sees.grows.follow held.leads) held.named clear
      cases here : disk.entry? (folder ++ [name]) with
      | none =>
          rw [here] at removed
          exact Or.inl ⟨_, removed⟩
      | some entry =>
          rw [here] at removed
          cases entry with
          | folder => exact Or.inl ⟨_, removed⟩
          | file content => exact Or.inr ⟨by simp, removed⟩

end

theorem store (held : Held footprint disk file.path folder name) (tree : disk.IsTree)
    (present : disk.entry? folder = some .folder) :
    ∃ effect, (Operation.store file).ActsAs footprint disk effect := by
  rcases writeText_cases held present file.content with ⟨problem, refused⟩ | ⟨closed, written⟩
  · refine ⟨.none, of_looking tree
      (diskStep ("Failed to write " ++ file.path.text) (.error problem)) ?_⟩
    intro later laterTree sees
    simp only [perform, RenderedFile.store, Storage.writeText, refused later laterTree sees]
    rfl
  · have filed : some (DiskEntry.file (.text file.content)) ≠ some .folder := by simp
    refine of_changing held tree present closed filed (.ok (.wrote file.path)) ?_
      fun later => entry?_set (inside_of_not_folder closed)
    intro later laterTree sees
    simp only [perform, RenderedFile.store, Storage.writeText, written later laterTree sees]
    rfl

theorem remove (held : Held footprint disk path folder name) (tree : disk.IsTree)
    (present : disk.entry? folder = some .folder) :
    ∃ effect, (Operation.remove path).ActsAs footprint disk effect := by
  rcases removeFile_cases held present with ⟨problem, refused⟩ | ⟨closed, removed⟩
  · refine ⟨.none, of_looking tree
      (diskStep ("Failed to remove stale " ++ path.text) (.error problem)) ?_⟩
    intro later laterTree sees
    simp only [perform, removeStale, Storage.removeFile, refused later laterTree sees]
    rfl
  · have filed : (none : Option DiskEntry) ≠ some .folder := by simp
    refine of_changing held tree present closed filed (.ok (.removed path)) ?_
      fun later => entry?_erase (inside_of_not_folder closed)
    intro later laterTree sees
    simp only [perform, removeStale, Storage.removeFile, removed later laterTree sees]
    rfl

end Operation.ActsAs

end ServiceStubs
