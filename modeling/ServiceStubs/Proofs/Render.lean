import Mathlib.Data.List.Flatten
import Mathlib.Data.List.Nodup
import ServiceStubs.Output
/-!
The paths of a package. No two planned files share a path, and packages of one
place touch the same paths: what one of them is written to, each of the others
is written to as well or owns.
-/

namespace ServiceStubs

namespace FilePath

/-- What joining puts before a part does not depend on the part. -/
theorem exists_lead (base : FilePath) : ∃ lead, ∀ part : FilePath, part.isAbsolute = false →
    (base.join part).text.toList = lead ++ part.text.toList := by
  by_cases ends : base.text.toList.isEmpty || base.text.toList.getLast? == some '/'
  · refine ⟨base.text.toList, fun part relative => ?_⟩
    simp only [join, relative, ends, if_true, Bool.false_eq_true, if_false, String.toList_ofList]
  · refine ⟨base.text.toList ++ ['/'], fun part relative => ?_⟩
    simp only [join, relative, ends, Bool.false_eq_true, if_false, String.toList_ofList,
      List.append_assoc, List.cons_append, List.nil_append]

variable {part other : FilePath}

theorem suffix_join (base : FilePath) (relative : part.isAbsolute = false) :
    part.text.toList <:+ (base.join part).text.toList := by
  obtain ⟨lead, joined⟩ := base.exists_lead
  exact ⟨lead, (joined part relative).symm⟩

theorem join_inj {base : FilePath} (relative : part.isAbsolute = false)
    (relative' : other.isAbsolute = false) (same : base.join part = base.join other) :
    part = other := by
  obtain ⟨lead, joined⟩ := base.exists_lead
  have texts : lead ++ part.text.toList = lead ++ other.text.toList := by
    rw [← joined part relative, ← joined other relative', same]
  cases part
  cases other
  exact congrArg mk (String.toList_inj.1 (List.append_cancel_left texts))

end FilePath

namespace Package
variable {package other : Package} {destination : Destination} {path : FilePath}

def fileNames : List String :=
  fixedFiles.map Prod.fst ++ PackageModule.all.flatMap PackageModule.files

def setupNames : List String :=
  ["setup.py", "README.md"]

theorem relative_of_mem_names :
    ∀ name ∈ setupNames ++ fileNames, (FilePath.mk name).isAbsolute = false := by
  decide

theorem names_apart : ∀ setup ∈ setupNames, ∀ name ∈ fileNames,
    ¬ setup.toList <:+ name.toList ∧ ¬ name.toList <:+ setup.toList := by
  decide

theorem join_names_nodup (folder : FilePath) {names : List String} (distinct : names.Nodup)
    (known : names ⊆ setupNames ++ fileNames) :
    (names.map fun name => folder.join ⟨name⟩).Nodup := by
  refine distinct.map_on fun name member name' member' same => ?_
  exact congrArg FilePath.text <| FilePath.join_inj (relative_of_mem_names name (known member))
    (relative_of_mem_names name' (known member')) same

/-- Even in one folder a setup file and a file of the package differ, since their names do not end
alike. -/
theorem join_setup_ne (setupFolder folder : FilePath) {setup name : String}
    (member : setup ∈ setupNames) (member' : name ∈ fileNames) :
    setupFolder.join ⟨setup⟩ ≠ folder.join ⟨name⟩ := by
  intro same
  obtain ⟨apart, apart'⟩ := names_apart setup member name member'
  have ends := FilePath.suffix_join setupFolder
    (relative_of_mem_names setup (List.mem_append_left _ member))
  have ends' := FilePath.suffix_join folder
    (relative_of_mem_names name (List.mem_append_right _ member'))
  rw [← same] at ends'
  exact (List.suffix_or_suffix_of_suffix ends ends').elim apart apart'

def plannedNames (package : Package) : List String :=
  fixedFiles.map Prod.fst ++ (PackageModule.all.filter package.has).flatMap PackageModule.files

theorem plannedNames_sublist (package : Package) : package.plannedNames.Sublist fileNames :=
  (List.Sublist.refl _).append (List.filter_sublist.flatMap _)

theorem setupPlan_paths (package : Package) (destination : Destination) :
    (package.setupPlan destination).map (·.path) =
      (if destination.withSetup then setupNames else []).map fun name =>
        (package.setupFolder destination).join ⟨name⟩ := by
  unfold setupPlan
  split <;> rfl

theorem plan_paths (package : Package) (destination : Destination) :
    (package.plan destination).map (·.path) = (package.setupPlan destination).map (·.path)
      ++ package.plannedNames.map fun name => (package.folder destination).join ⟨name⟩ := by
  simp [plan, moduleFiles, plannedNames, List.map_flatMap, Function.comp_def]

theorem plan_paths_nodup (package : Package) (destination : Destination) :
    ((package.plan destination).map (·.path)).Nodup := by
  have setup : (if destination.withSetup then setupNames else []).Sublist setupNames := by
    split
    · exact List.Sublist.refl _
    · exact List.nil_sublist _
  have named := package.plannedNames_sublist
  rw [plan_paths, setupPlan_paths]
  refine List.Nodup.append ?_ ?_ ?_
  · exact join_names_nodup _ (setup.nodup (by decide)) fun name member =>
      List.mem_append_left _ (setup.subset member)
  · exact join_names_nodup _ (named.nodup (by decide)) fun name member =>
      List.mem_append_right _ (named.subset member)
  · intro path inSetup inFolder
    obtain ⟨first, member, rfl⟩ := List.mem_map.1 inSetup
    obtain ⟨second, member', same⟩ := List.mem_map.1 inFolder
    exact join_setup_ne _ _ (setup.subset member) (named.subset member') same.symm

theorem ownedPaths_nodup (package : Package) (destination : Destination) :
    (package.ownedPaths destination).Nodup :=
  join_names_nodup _ (by decide) (by decide)

theorem unplannedPaths_nodup (package : Package) (destination : Destination) :
    (package.unplannedPaths destination).Nodup := by
  unfold unplannedPaths
  exact (package.ownedPaths_nodup destination).filter _

theorem not_planned_of_mem_unplannedPaths (member : path ∈ package.unplannedPaths destination) :
    path ∉ (package.plan destination).map (·.path) := by
  simpa using (List.mem_filter.1 member).2

/-- Writing the package may change what is at the path. -/
def Touches (package : Package) (destination : Destination) (path : FilePath) : Prop :=
  path ∈ (package.plan destination).map (·.path) ∨ path ∈ package.ownedPaths destination

theorem touches_iff_unplanned : package.Touches destination path ↔
    path ∈ (package.plan destination).map (·.path) ∨ path ∈ package.unplannedPaths destination := by
  unfold Touches unplannedPaths
  rw [List.mem_filter]
  by_cases planned : path ∈ (package.plan destination).map (·.path) <;> simp [planned]

structure SharesPlace (package other : Package) : Prop where
  name : package.name = other.name
  module : package.service.moduleName = other.service.moduleName

/-- What a package touches is decided by its folders. -/
theorem touches_iff_names : package.Touches destination path ↔
    path ∈ (package.setupPlan destination).map (·.path) ∨
      ∃ name ∈ fileNames, (package.folder destination).join ⟨name⟩ = path := by
  unfold Touches
  rw [plan_paths, List.mem_append]
  constructor
  · rintro ((setup | named) | owned)
    · exact Or.inl setup
    · obtain ⟨name, member, same⟩ := List.mem_map.1 named
      exact Or.inr ⟨name, package.plannedNames_sublist.subset member, same⟩
    · obtain ⟨name, member, same⟩ := List.mem_map.1 owned
      obtain ⟨module, known, member⟩ := List.mem_flatMap.1 member
      exact Or.inr ⟨name, List.mem_append_right _
        (List.mem_flatMap.2 ⟨module, known, List.mem_reverse.1 member⟩), same⟩
  · rintro (setup | ⟨name, member, same⟩)
    · exact Or.inl (Or.inl setup)
    · rcases List.mem_append.1 member with fixed | ofModule
      · exact Or.inl (Or.inr (List.mem_map.2 ⟨name, List.mem_append_left _ fixed, same⟩))
      · -- The file of a module is owned, also where the package has no such module.
        obtain ⟨module, known, member⟩ := List.mem_flatMap.1 ofModule
        exact Or.inr (List.mem_map.2 ⟨name,
          List.mem_flatMap.2 ⟨module, known, List.mem_reverse.2 member⟩, same⟩)

theorem SharesPlace.touches_iff (shares : package.SharesPlace other) :
    package.Touches destination path ↔ other.Touches destination path := by
  have setupFolder : package.setupFolder destination = other.setupFolder destination := by
    rw [Package.setupFolder, Package.setupFolder, shares.module]
  have folder : package.folder destination = other.folder destination := by
    rw [Package.folder, Package.folder, setupFolder, shares.name]
  rw [touches_iff_names, touches_iff_names, setupPlan_paths, setupPlan_paths, setupFolder, folder]

end Package

/-!
What rendering a package gives: one file for every planned one, at its path and
with what the renderer, the formatter and the sorting of the imports make of
it, or a failure exactly when one of these fails for some planned file.
-/

def PlannedFile.IsCode (planned : PlannedFile) : Prop :=
  planned.path.extension = some "py" ∨ planned.path.extension = some "pyi"

theorem PlannedFile.isCode_iff {planned : PlannedFile} :
    isCode planned.path = true ↔ planned.IsCode := by
  simp [isCode, IsCode]

namespace Producer
variable {producer : Producer} {package : Package} {destination : Destination}
  {planned : PlannedFile} {file : RenderedFile}

/-- What a planned file is to hold. Only code has imports to be sorted. -/
inductive Produced (producer : Producer) (package : Package) (planned : PlannedFile)
    (content : String) : Prop
  | code {text formatted : String}
      (rendered : producer.renderer planned.template package = .ok text)
      (formats : producer.formatter.format text planned.path = .ok formatted)
      (code : planned.IsCode)
      (sorts : producer.formatter.sortImports formatted package.service.moduleName "pyi"
        = .ok content)
  | other {text : String}
      (rendered : producer.renderer planned.template package = .ok text)
      (formats : producer.formatter.format text planned.path = .ok content)
      (other : ¬ planned.IsCode)

inductive Unproduced (producer : Producer) (package : Package) (planned : PlannedFile) : Prop
  | unrendered {failure : Failure}
      (failed : producer.renderer planned.template package = .error failure)
  | unformatted {text : String} {failure : Failure}
      (rendered : producer.renderer planned.template package = .ok text)
      (failed : producer.formatter.format text planned.path = .error failure)
  | unsorted {text formatted : String} {failure : Failure}
      (rendered : producer.renderer planned.template package = .ok text)
      (formats : producer.formatter.format text planned.path = .ok formatted)
      (code : planned.IsCode)
      (failed : producer.formatter.sortImports formatted package.service.moduleName "pyi"
        = .error failure)

theorem renderFile_cases (producer : Producer) (package : Package) (planned : PlannedFile) :
    (∃ content, producer.renderFile package planned = .ok { path := planned.path, content } ∧
      producer.Produced package planned content) ∨
    ∃ failure, producer.renderFile package planned = .error failure ∧
      producer.Unproduced package planned := by
  cases rendered : producer.renderer planned.template package with
  | error failure => exact .inr ⟨failure, by simp [renderFile, rendered], .unrendered rendered⟩
  | ok text =>
      cases formats : producer.formatter.format text planned.path with
      | error failure =>
          simp only [renderFile, finish, rendered, formats, inStep]
          exact .inr ⟨_, rfl, .unformatted rendered formats⟩
      | ok formatted =>
          simp only [renderFile, finish, rendered, formats, inStep]
          by_cases code : isCode planned.path
          · have named := PlannedFile.isCode_iff.1 code
            simp only [code, if_true]
            cases sorts : producer.formatter.sortImports formatted
                package.service.moduleName "pyi" with
            | error failure => exact .inr ⟨_, rfl, .unsorted rendered formats named sorts⟩
            | ok content => exact .inl ⟨content, rfl, .code rendered formats named sorts⟩
          · have other := fun named => code (PlannedFile.isCode_iff.2 named)
            simp only [code, Bool.false_eq_true, if_false]
            exact .inl ⟨formatted, rfl, .other rendered formats other⟩

theorem renderFile_eq_ok_iff : producer.renderFile package planned = .ok file ↔
    file.path = planned.path ∧ producer.Produced package planned file.content := by
  constructor
  · intro made
    rcases producer.renderFile_cases package planned with ⟨_, done, produced⟩ | ⟨_, failed, _⟩
    · cases made.symm.trans done
      exact ⟨rfl, produced⟩
    · cases made.symm.trans failed
  · obtain ⟨path, content⟩ := file
    rintro ⟨rfl, ⟨rendered, formats, code, sorts⟩ | ⟨rendered, formats, other⟩⟩
    · simp [renderFile, finish, rendered, formats, PlannedFile.isCode_iff.2 code, sorts, inStep]
    · have plain : ¬ isCode planned.path = true := fun code => other (PlannedFile.isCode_iff.1 code)
      simp [renderFile, finish, rendered, formats, plain, inStep]

theorem renderFile_fails_iff :
    (∃ failure, producer.renderFile package planned = .error failure) ↔
      producer.Unproduced package planned := by
  constructor
  · rintro ⟨failure, stopped⟩
    rcases producer.renderFile_cases package planned with ⟨_, done, _⟩ | ⟨_, _, unproduced⟩
    · cases stopped.symm.trans done
    · exact unproduced
  · rintro (failed | ⟨rendered, failed⟩ | ⟨rendered, formats, code, failed⟩)
    · simp [renderFile, failed]
    · simp [renderFile, finish, rendered, failed, inStep]
    · simp [renderFile, finish, rendered, formats, PlannedFile.isCode_iff.2 code, failed, inStep]

theorem renderFiles_paths {plan : List PlannedFile} {files : List RenderedFile}
    (rendered : producer.renderFiles package plan = .ok files) :
    files.map (·.path) = plan.map (·.path) := by
  induction plan generalizing files with
  | nil =>
      cases rendered
      rfl
  | cons planned rest ih =>
      unfold renderFiles at rendered
      split at rendered
      · cases rendered
      · rename_i file first
        split at rendered
        · cases rendered
        · rename_i later others
          cases rendered
          rw [List.map_cons, List.map_cons, (renderFile_eq_ok_iff.1 first).1, ih others]

theorem renderFiles_fails_iff {plan : List PlannedFile} :
    (∃ failure, producer.renderFiles package plan = .error failure) ↔
      ∃ planned ∈ plan, ∃ failure, producer.renderFile package planned = .error failure := by
  induction plan with
  | nil => simp [renderFiles]
  | cons planned rest ih =>
      simp only [List.mem_cons, exists_eq_or_imp]
      rw [← ih, renderFiles]
      cases producer.renderFile package planned with
      | error failure => simp
      | ok file => cases producer.renderFiles package rest <;> simp

theorem render_paths {files : List RenderedFile}
    (rendered : producer.render package destination = .ok files) :
    files.map (·.path) = (package.plan destination).map (·.path) :=
  renderFiles_paths rendered

/-- Nothing is rendered exactly when one of the planned files cannot be produced. -/
theorem render_fails_iff : (∃ failure, producer.render package destination = .error failure) ↔
    ∃ planned ∈ package.plan destination, producer.Unproduced package planned := by
  rw [render, renderFiles_fails_iff]
  simp only [renderFile_fails_iff]

theorem renderFiles_mem {plan : List PlannedFile} {files : List RenderedFile}
    (succeeded : producer.renderFiles package plan = .ok files) :
    ∀ planned ∈ plan, ∃ file ∈ files, producer.renderFile package planned = .ok file := by
  induction plan generalizing files with
  | nil => nofun
  | cons first rest ih =>
      unfold renderFiles at succeeded
      split at succeeded
      · cases succeeded
      · rename_i file produced
        split at succeeded
        · cases succeeded
        · rename_i others later
          cases succeeded
          intro planned member
          rcases List.mem_cons.1 member with rfl | deeper
          · exact ⟨file, List.mem_cons_self, produced⟩
          · obtain ⟨other, listed, otherProduced⟩ := ih later planned deeper
            exact ⟨other, List.mem_cons_of_mem file listed, otherProduced⟩

theorem render_succeeds_iff : (∃ rendered, producer.render package destination = .ok rendered) ↔
    ∀ planned ∈ package.plan destination, ∃ content, producer.Produced package planned content := by
  constructor
  · rintro ⟨rendered, succeeded⟩ planned member
    obtain ⟨file, _, produced⟩ := renderFiles_mem succeeded planned member
    exact ⟨file.content, (renderFile_eq_ok_iff.1 produced).2⟩
  · intro produced
    cases outcome : producer.render package destination with
    | ok rendered => exact ⟨rendered, rfl⟩
    | error failure =>
        obtain ⟨planned, member, _, failed⟩ := renderFiles_fails_iff.1 ⟨failure, outcome⟩
        obtain ⟨content, contains⟩ := produced planned member
        have done : producer.renderFile package planned = .ok { path := planned.path, content } :=
          renderFile_eq_ok_iff.2 ⟨rfl, contains⟩
        rw [failed] at done
        cases done

end Producer

end ServiceStubs
