import Mathlib.Data.List.Dedup
import Mathlib.Data.List.Perm.Basic
import ServiceStubs.Manifest
import ServiceStubs.Package
import ServiceStubs.Proofs.Definitions
import ServiceStubs.Proofs.ImportSet
import ServiceStubs.Proofs.ModulePath
import ServiceStubs.Proofs.Places
import ServiceStubs.Proofs.Render
/-!
What the entry point exports against what it binds. It imports each component
from the component's own module and gives client and service resource a short
name where that is another one. The names it exports are the names so bound,
however they coincide.
-/

namespace ServiceStubs.Package

variable {package : Package}

def exportedComponents (package : Package) : List (PackageModule × String) :=
  (.client, package.client.name)
    :: (package.serviceResource.map fun resource =>
          (PackageModule.serviceResource, resource.name)).toList
    ++ package.waiters.map (fun waiter => (.waiter, waiter.name))
    ++ package.paginators.map (fun paginator => (.paginator, paginator.name))

theorem exportImports_eq (package : Package) :
    package.exportImports = Sorted.ofList ImportRecord.order
      (package.exportedComponents.map fun component =>
        package.componentImport component.1 component.2) := by
  rw [exportImports, ImportSet.ofList, ImportSet.records_insertAll]
  cases given : package.serviceResource <;>
    simp [exportedComponents, given, Sorted.ofList, Function.comp_def]

section Imports

theorem getLast?_componentImport (module : PackageModule) (name : String) :
    (package.componentImport module name).source.segments.getLast? = some module.name := by
  have named : module.name ≠ "" := by cases module <;> decide
  by_cases nowhere : package.service.moduleName = "" <;>
    simp [componentImport, ModulePath.ofSegments, nowhere, named]

theorem module_eq_of_name_eq {module other : PackageModule} (same : module.name = other.name) :
    module = other := by
  revert same
  cases module <;> cases other <;> decide

/-- Two components share an import only where module and name are the same. -/
theorem componentImport_order_iff {component other : PackageModule × String} :
    (package.componentImport component.1 component.2).order
        (package.componentImport other.1 other.2) = .eq ↔ component = other := by
  rw [ImportRecord.order_eq_iff]
  constructor
  · rintro ⟨source, named⟩
    have last := congrArg (·.segments.getLast?) source
    simp only [getLast?_componentImport, Option.some.injEq] at last
    exact Prod.ext (module_eq_of_name_eq last) (Option.some.inj named)
  · rintro rfl
    exact ⟨rfl, rfl⟩

theorem mem_exportImports {imported : ImportRecord} : imported ∈ package.exportImports ↔
    ∃ component ∈ package.exportedComponents,
      package.componentImport component.1 component.2 = imported := by
  rw [exportImports_eq, Sorted.mem_ofList_of_alike, List.mem_map]
  intro first member second member' same
  obtain ⟨component, _, rfl⟩ := List.mem_map.1 member
  obtain ⟨other, _, rfl⟩ := List.mem_map.1 member'
  rw [componentImport_order_iff.1 same]

theorem exists_imported_iff {name : String} :
    (∃ imported ∈ package.exportImports, imported.name = some name) ↔
      name ∈ package.exportedComponents.map Prod.snd := by
  simp only [mem_exportImports, List.mem_map]
  constructor
  · rintro ⟨_, ⟨component, listed, rfl⟩, named⟩
    exact ⟨component, listed, Option.some.inj named⟩
  · rintro ⟨component, listed, rfl⟩
    exact ⟨_, ⟨component, listed, rfl⟩, rfl⟩

theorem increasing_exportImports (package : Package) :
    Sorted.Increasing ImportRecord.order package.exportImports :=
  package.exportImports_eq ▸ Sorted.increasing_ofList _

theorem exportImports_perm (package : Package) : package.exportImports.Perm
    (package.exportedComponents.dedup.map fun component =>
      package.componentImport component.1 component.2) := by
  have distinct : (package.exportedComponents.dedup.map fun component =>
      package.componentImport component.1 component.2).Nodup := by
    refine (List.nodup_dedup _).map fun component other same => ?_
    have alike : package.componentImport component.1 component.2
        = package.componentImport other.1 other.2 := same
    rw [← componentImport_order_iff, alike]
    exact Std.ReflCmp.compare_self
  refine (List.perm_ext_iff_of_nodup package.increasing_exportImports.nodup distinct).2 ?_
  intro imported
  simp only [mem_exportImports, List.mem_map, List.mem_dedup]

end Imports

section Aliases

theorem mem_aliases {short : String × String} : short ∈ package.aliases ↔
    short.1 ≠ short.2 ∧ (short = (package.client.aliasName, package.client.name) ∨
      ∃ resource, package.serviceResource = some resource ∧
        short = (resource.aliasName, resource.name)) := by
  simp only [aliases, List.mem_filter, List.mem_cons, Option.mem_toList, Option.map_eq_some_iff,
    decide_eq_true_eq]
  rw [and_comm]
  simp only [eq_comm]

theorem exists_imported_of_alias {short : String × String} (bound : short ∈ package.aliases) :
    ∃ imported ∈ package.exportImports, imported.name = some short.2 := by
  rw [exists_imported_iff, exportedComponents]
  obtain ⟨_, rfl | ⟨resource, given, rfl⟩⟩ := mem_aliases.1 bound
  · simp
  · simp [given]

end Aliases

/-- What the entry point binds: the names it imports and its short names. -/
def Binds (package : Package) (name : String) : Prop :=
  (∃ imported ∈ package.exportImports, imported.name = some name) ∨
    ∃ short ∈ package.aliases, short.1 = name

theorem mem_exportedNames {name : String} : name ∈ package.exportedNames ↔
    name ∈ package.exportedComponents.map Prod.snd ∨ name = package.client.aliasName ∨
      ∃ resource, package.serviceResource = some resource ∧ name = resource.aliasName := by
  rw [exportedNames, Sorted.mem_ofList]
  cases given : package.serviceResource <;> simp [exportedComponents, given] <;> grind

theorem binds_short {short : String × String}
    (given : short = (package.client.aliasName, package.client.name) ∨
      ∃ resource, package.serviceResource = some resource ∧
        short = (resource.aliasName, resource.name)) :
    package.Binds short.1 := by
  -- No line is written for a short name that is the name itself: the import binds it.
  by_cases same : short.1 = short.2
  · refine Or.inl (exists_imported_iff.2 ?_)
    rw [same, exportedComponents]
    obtain rfl | ⟨resource, isThere, rfl⟩ := given
    · simp
    · simp [isThere]
  · exact Or.inr ⟨short, mem_aliases.2 ⟨same, given⟩, rfl⟩

theorem mem_exportedNames_iff_binds {name : String} :
    name ∈ package.exportedNames ↔ package.Binds name := by
  rw [mem_exportedNames]
  constructor
  · rintro (component | rfl | ⟨resource, given, rfl⟩)
    · exact Or.inl (exists_imported_iff.2 component)
    · exact binds_short (Or.inl rfl)
    · exact binds_short (Or.inr ⟨resource, given, rfl⟩)
  · rintro (imported | ⟨short, bound, rfl⟩)
    · exact Or.inl (exists_imported_iff.1 imported)
    · obtain ⟨_, rfl | ⟨resource, given, rfl⟩⟩ := mem_aliases.1 bound
      · exact Or.inr (Or.inl rfl)
      · exact Or.inr (Or.inr ⟨resource, given, rfl⟩)

/-- The entry point exports what it binds, each name once and in order, the short names among
them. Short names are given to imported names only, and there is one import for each module and
name. -/
theorem exportedNames_bound (package : Package) :
    Sorted.Increasing compare package.exportedNames ∧
      (∀ name, name ∈ package.exportedNames ↔
        (∃ imported ∈ package.exportImports, imported.name = some name) ∨
          ∃ short ∈ package.aliases, short.1 = name) ∧
      (package.client.aliasName ∈ package.exportedNames ∧
        ∀ resource, package.serviceResource = some resource →
          resource.aliasName ∈ package.exportedNames) ∧
      (∀ short ∈ package.aliases,
        ∃ imported ∈ package.exportImports, imported.name = some short.2) ∧
      Sorted.Increasing ImportRecord.order package.exportImports ∧
      package.exportImports.Perm (package.exportedComponents.dedup.map fun component =>
        package.componentImport component.1 component.2) := by
  refine ⟨Sorted.increasing_ofList _, fun name => mem_exportedNames_iff_binds, ⟨?_, ?_⟩,
    fun short bound => exists_imported_of_alias bound, package.increasing_exportImports,
    package.exportImports_perm⟩
  · exact mem_exportedNames.2 (Or.inr (Or.inl rfl))
  · exact fun resource given => mem_exportedNames.2 (Or.inr (Or.inr ⟨resource, given, rfl⟩))

/-- Two waiters, a paginator and the client's short name have one name, and the short name of the
service resource is its own. -/
def coinciding : Package where
  name := "stubs_s3"
  pypiName := "stubs-s3"
  service := { name := "s3", className := "S3", moduleName := "stubs_s3" }
  client := { name := "S3Client", aliasName := "Objects" }
  serviceResource := some { name := "S3", aliasName := "S3" }
  waiters := [{ name := "Objects", waiterName := "exist" },
    { name := "Objects", waiterName := "gone" }]
  paginators := [{ name := "Objects", operationName := "list" }]
  registry := .empty "s3" .strict

theorem coinciding_bound :
    coinciding.aliases = [("Objects", "S3Client")] ∧ coinciding.exportImports.length = 4 ∧
    (∃ imported ∈ coinciding.exportImports, imported.name = some "S3Client") ∧
    "Objects" ∈ coinciding.exportedNames ∧ "S3" ∈ coinciding.exportedNames := by
  have aliases : coinciding.aliases = [("Objects", "S3Client")] := by decide
  obtain ⟨_, bound, ⟨_, resource⟩, imported, _, imports⟩ := exportedNames_bound coinciding
  have listed : ("Objects", "S3Client") ∈ coinciding.aliases := by simp [aliases]
  exact ⟨aliases, imports.length_eq.trans (by decide), imported _ listed,
    (bound "Objects").2 (Or.inr ⟨_, listed, rfl⟩), resource _ rfl⟩

end ServiceStubs.Package

/-!
Whether the imports of a package lead to its own files. Imports are spelled with
the service's module, which is read as a path of folders, while the files are
put into the folder that the package is named after. The two are given apart
from one another, so imports lead to files exactly where both come to the same
place, and where the definitions that helper functions refer to are there at all.
-/

namespace ServiceStubs

structure FilePath.SamePlace (a b : FilePath) : Prop where
  isAbsolute : a.isAbsolute = b.isAbsolute
  names : a.names = b.names

/-- Where the stub file of the module is looked for: the last segment names the file, those before
it the folders below `folder`. -/
def ModulePath.stubBelow (path : ModulePath) (folder : FilePath) : FilePath :=
  (folder.join ⟨String.intercalate "/" path.segments.dropLast⟩).join
    ⟨path.segments.getLastD "" ++ ".pyi"⟩

namespace Package

def importFolder (package : Package) (destination : Destination) : FilePath :=
  (package.setupFolder destination).join
    ⟨String.intercalate "/" (ModulePath.ofDotted package.service.moduleName).segments⟩

/-- Reading the text of the source leads to a file that is planned. -/
def Resolves (package : Package) (destination : Destination) (source : ModulePath) : Prop :=
  ∃ planned ∈ package.plan destination, planned.path.SamePlace
    ((ModulePath.ofDotted source.text).stubBelow (package.setupFolder destination))

def ImportsSibling (package : Package) (module : PackageModule) (imported : ImportRecord) : Prop :=
  imported ∈ package.imports module ∧
    ∃ leaf record, package.Needs module leaf record ∧ record.sibling = true ∧
      imported.sameImport (record.absolute package.service.moduleName)

structure ImportsResolve (package : Package) (destination : Destination) : Prop where
  exports : ∀ imported ∈ package.exportImports, package.Resolves destination imported.source
  siblings : ∀ module imported, package.ImportsSibling module imported →
    package.Resolves destination imported.source

section Files
variable {package : Package} {destination : Destination} {module : PackageModule}

theorem single_of_mem_names : ∀ name ∈ setupNames ++ fileNames,
    (FilePath.mk name).isAbsolute = false ∧ (FilePath.mk name).names = [name] := by
  decide

theorem samePlace_join_iff {folder other : FilePath} {name file : String}
    (known : name ∈ setupNames ++ fileNames) (known' : file ∈ setupNames ++ fileNames) :
    (folder.join ⟨name⟩).SamePlace (other.join ⟨file⟩) ↔ folder.SamePlace other ∧ name = file := by
  obtain ⟨relative, single⟩ := single_of_mem_names name known
  obtain ⟨relative', single'⟩ := single_of_mem_names file known'
  constructor
  · rintro ⟨start, along⟩
    rw [FilePath.isAbsolute_join _ relative, FilePath.isAbsolute_join _ relative'] at start
    rw [FilePath.names_join _ relative, FilePath.names_join _ relative', single, single'] at along
    obtain ⟨before, last⟩ := List.append_inj' along rfl
    exact ⟨⟨start, before⟩, List.singleton_inj.1 last⟩
  · rintro ⟨⟨start, along⟩, rfl⟩
    refine ⟨?_, ?_⟩
    · rw [FilePath.isAbsolute_join _ relative, FilePath.isAbsolute_join _ relative, start]
    · rw [FilePath.names_join _ relative, FilePath.names_join _ relative, along]

theorem stubFileName_known : ∀ module : PackageModule, module.hasStub = true →
    module.stubFileName ∈ fileNames ∧ module.stubFileName ∉ setupNames ∧
      module.stubFileName ∉ fixedFiles.map Prod.fst ∧
      ∀ other ∈ PackageModule.all, module.stubFileName ∈ other.files → other = module := by
  rintro (_ | _ | _ | _ | _ | _) <;> decide

theorem stubFileName_mem_plannedNames (stub : module.hasStub = true) :
    module.stubFileName ∈ package.plannedNames ↔ package.has module = true := by
  obtain ⟨_, _, unfixed, own⟩ := stubFileName_known module stub
  simp only [plannedNames, List.mem_append, unfixed, false_or, List.mem_flatMap, List.mem_filter]
  constructor
  · rintro ⟨other, ⟨listed, has⟩, file⟩
    exact own other listed file ▸ has
  · intro has
    refine ⟨module, ⟨by cases module <;> decide, has⟩, ?_⟩
    rw [PackageModule.files, if_pos stub]
    exact List.mem_cons_self

/-- A module below the service's is found where it is planned and the folders agree. -/
theorem resolves_iff {source : ModulePath} (stub : module.hasStub = true)
    (below : (ModulePath.ofDotted source.text).segments =
      (ModulePath.ofDotted package.service.moduleName).segments ++ [module.name]) :
    package.Resolves destination source ↔
      (package.folder destination).SamePlace (package.importFolder destination) ∧
        package.has module = true := by
  obtain ⟨known, notSetup, _⟩ := stubFileName_known module stub
  have known := List.mem_append_right setupNames known
  have place : (ModulePath.ofDotted source.text).stubBelow (package.setupFolder destination) =
      (package.importFolder destination).join ⟨module.stubFileName⟩ := by
    rw [ModulePath.stubBelow, below, List.dropLast_concat, List.getLastD_concat]
    rfl
  unfold Resolves
  rw [place, ← stubFileName_mem_plannedNames stub]
  constructor
  · -- A path of the plan ends in a name of its own, so only the module's stub can be meant.
    rintro ⟨planned, member, same⟩
    have path := List.mem_map_of_mem (f := PlannedFile.path) member
    rw [plan_paths, setupPlan_paths, List.mem_append] at path
    rcases path with setup | ofPackage
    · obtain ⟨name, listed, path⟩ := List.mem_map.1 setup
      have listed : name ∈ setupNames := by
        split at listed
        · exact listed
        · cases listed
      rw [← path, samePlace_join_iff (List.mem_append_left _ listed) known] at same
      exact absurd (same.2 ▸ listed) notSetup
    · obtain ⟨name, listed, path⟩ := List.mem_map.1 ofPackage
      have named := List.mem_append_right setupNames (package.plannedNames_sublist.subset listed)
      rw [← path, samePlace_join_iff named known] at same
      exact ⟨same.1, same.2 ▸ listed⟩
  · rintro ⟨together, listed⟩
    have path : (package.folder destination).join ⟨module.stubFileName⟩ ∈
        (package.plan destination).map (·.path) := by
      rw [plan_paths]
      exact List.mem_append_right _ (List.mem_map_of_mem listed)
    obtain ⟨planned, member, same⟩ := List.mem_map.1 path
    refine ⟨planned, member, ?_⟩
    rw [same, samePlace_join_iff known known]
    exact ⟨together, rfl⟩

end Files

section Exports
variable {package : Package} {destination : Destination}

theorem has_of_exported {component : PackageModule × String}
    (exported : component ∈ package.exportedComponents) :
    component.1.hasStub = true ∧ package.has component.1 = true := by
  simp only [exportedComponents, List.cons_append, List.mem_cons, List.mem_append,
    Option.mem_toList, Option.map_eq_some_iff, List.mem_map] at exported
  rcases exported with
    rfl | (⟨resource, given, rfl⟩ | ⟨waiter, given, rfl⟩) | ⟨paginator, given, rfl⟩
  · exact ⟨rfl, rfl⟩
  · exact ⟨rfl, by simp [has, given]⟩
  · exact ⟨rfl, by simpa [has] using List.ne_nil_of_mem given⟩
  · exact ⟨rfl, by simpa [has] using List.ne_nil_of_mem given⟩

theorem resolves_componentImport_iff {module : PackageModule} (stub : module.hasStub = true)
    (name : String) : package.Resolves destination (package.componentImport module name).source ↔
      (package.folder destination).SamePlace (package.importFolder destination) ∧
        package.has module = true :=
  resolves_iff stub (ModulePath.segments_ofDotted_below _ _ (Or.inl rfl))

theorem exports_resolve_iff :
    (∀ imported ∈ package.exportImports, package.Resolves destination imported.source) ↔
      (package.folder destination).SamePlace (package.importFolder destination) := by
  constructor
  · intro resolve
    have client := resolve _ (mem_exportImports.2 ⟨_, List.mem_cons_self, rfl⟩)
    exact ((resolves_componentImport_iff rfl _).1 client).1
  · intro together imported member
    obtain ⟨component, exported, rfl⟩ := mem_exportImports.1 member
    obtain ⟨stub, has⟩ := has_of_exported exported
    exact (resolves_componentImport_iff stub _).2 ⟨together, has⟩

end Exports

section Siblings
variable {package flat : Package} {destination : Destination} {module : PackageModule}
  {imported : ImportRecord}

theorem ImportsSibling.source (sibling : package.ImportsSibling module imported) :
    imported.source = package.typeDefsSource := by
  obtain ⟨_, leaf, record, needs, beside, same⟩ := sibling
  obtain ⟨name, _, rfl⟩ := TypeExpr.ref_of_sibling needs.1.spelled beside
  exact (ImportRecord.sameImport_iff.1 same).1

theorem ImportsSibling.reference (sibling : package.ImportsSibling module imported) :
    ∃ type ∈ package.writtenTypes module, ∃ name, name ∈ type.references := by
  obtain ⟨_, leaf, record, needs, beside, _⟩ := sibling
  obtain ⟨name, rfl, _⟩ := TypeExpr.ref_of_sibling needs.1.spelled beside
  obtain ⟨type, written, atom⟩ := needs.1.occurs
  exact ⟨type, written, name, TypeExpr.ref_mem_atoms.1 atom⟩

theorem exists_sameImport {records : List ImportRecord} {record : ImportRecord}
    (member : record ∈ records) (outside : record.isBuiltins = false) :
    ∃ imported ∈ (package.addRequired {} records).records,
      imported.sameImport (record.absolute package.service.moduleName) := by
  have history : package.addRequired {} records = ImportSet.run
      (records.map (ImportSet.Operation.addRequired · package.service.moduleName)) := by
    rw [ImportSet.run, List.foldl_map]
    rfl
  have written : record.absolute package.service.moduleName ∈
      (ImportSet.Operation.addRequired record package.service.moduleName).writes := by
    change _ ∈ if record.isBuiltins then [] else _
    rw [outside, ImportSet.Operation.requiredWrites]
    cases record.needsVersionCheck <;> simp
  have listed := List.mem_map_of_mem
    (f := (ImportSet.Operation.addRequired · package.service.moduleName)) member
  obtain ⟨imported, present, same⟩ := List.mem_map.1 <|
    ImportSet.mem_identities_run.2 ⟨_, listed, _, written, rfl⟩
  refine ⟨imported, history ▸ present, ImportRecord.sameImport_iff.2 ?_⟩
  exact ImportRecord.order_eq_iff.1 (ImportRecord.order_eq_iff_identity.2 same)

/-- What a helper function refers to is imported by the client's module, defined or not. -/
theorem exists_importsSibling {function : Callable} (helper : function ∈ package.helperFunctions)
    {type : TypeExpr} (signed : type ∈ function.annotations) {name : String}
    (occurs : name ∈ type.references) : ∃ imported, package.ImportsSibling .client imported := by
  have outside := ImportRecord.ofSibling_isBuiltins .typeDefs name
  have atom : TypeExpr.ref name ∈ type.atoms := TypeExpr.ref_mem_atoms.2 occurs
  have written : type ∈ package.writtenTypes .client := by
    rw [writtenTypes_client]
    exact List.mem_append_right _ (List.mem_flatMap.2 ⟨function, helper, signed⟩)
  have needs : package.Needs .client (.ref name) (.ofSibling .typeDefs name) :=
    needs_of_component (by decide) ⟨⟨type, written, atom⟩, rfl, outside⟩
  have asked : ImportRecord.ofSibling .typeDefs name ∈
      package.helperFunctions.flatMap fun function => function.types.filterMap TypeExpr.record :=
    List.mem_flatMap.2 ⟨function, helper, List.mem_filterMap.2
      ⟨.ref name, TypeExpr.mem_atomsOf.2 ⟨type, signed, atom⟩, rfl⟩⟩
  obtain ⟨imported, present, same⟩ := exists_sameImport (List.mem_append_right _ asked) outside
  rw [← clientImports_eq] at present
  exact ⟨imported, present, .ref name, _, needs, rfl, same⟩

theorem typeDefs_ne_nil (flattened : package.flatten = .ok flat)
    (helpers : flat.typeDefs = [] → ∀ function ∈ flat.helperFunctions,
      ∀ type ∈ function.annotations, type.references = [])
    (sibling : flat.ImportsSibling module imported) : flat.typeDefs ≠ [] := by
  intro nothing
  obtain ⟨type, written, name, occurs⟩ := sibling.reference
  obtain ⟨definitions, closure, rfl⟩ := flatten_cases flattened
  have defines : (package.setTypeDefs definitions).Defines module := by
    by_cases client : module = .client
    · subst client
      refine (defines_client_iff closure).2 fun function helper type signed name occurs => ?_
      rw [helpers nothing function helper type signed] at occurs
      cases occurs
    · exact defines_of_ne_client closure client
  have defined := defines.annotations type written name occurs
  rw [typeDefNames, nothing] at defined
  cases defined

theorem resolves_typeDefsSource_iff : package.Resolves destination package.typeDefsSource ↔
    (package.folder destination).SamePlace (package.importFolder destination) ∧
      package.typeDefs ≠ [] := by
  have stub : PackageModule.typeDefs.hasStub = true := by decide
  rw [typeDefsSource, resolves_iff stub (ModulePath.segments_ofDotted_below _ _ (Or.inr rfl))]
  simp [has]

/-- The folder is where imports look for it when package and module have one name without a dot. -/
theorem samePlace_of_name_eq (same : package.name = package.service.moduleName)
    (plain : '.' ∉ package.service.moduleName.toList) :
    (package.folder destination).SamePlace (package.importFolder destination) := by
  have read : String.intercalate "/" (ModulePath.ofDotted package.service.moduleName).segments =
      package.service.moduleName := by
    rw [ModulePath.ofDotted, ModulePath.ofSegments, Text.split_of_not_mem plain]
    by_cases empty : package.service.moduleName = "" <;> simp [empty]
  rw [folder, importFolder, same, read]
  exact ⟨rfl, rfl⟩

/-- After flattening imports lead to planned files exactly where the package's folder is the one
its imports lead to, and unless there are no definitions at all while a helper function refers to
some. -/
theorem flatten_importsResolve_iff (flattened : package.flatten = .ok flat)
    (destination : Destination) :
    (flat.ImportsResolve destination ↔
      (flat.folder destination).SamePlace (flat.importFolder destination) ∧
        (flat.typeDefs = [] → ∀ function ∈ flat.helperFunctions, ∀ type ∈ function.annotations,
          type.references = [])) ∧
    (flat.name = flat.service.moduleName → '.' ∉ flat.service.moduleName.toList →
      (flat.folder destination).SamePlace (flat.importFolder destination)) := by
  refine ⟨⟨fun resolve => ?_, fun ⟨together, helpers⟩ => ?_⟩, samePlace_of_name_eq⟩
  · refine ⟨exports_resolve_iff.1 resolve.exports, fun nothing function helper type signed => ?_⟩
    refine List.eq_nil_iff_forall_not_mem.2 fun name occurs => ?_
    obtain ⟨imported, sibling⟩ := exists_importsSibling helper signed occurs
    have found := resolve.siblings _ _ sibling
    rw [sibling.source, resolves_typeDefsSource_iff] at found
    exact found.2 nothing
  · refine ⟨exports_resolve_iff.2 together, fun module imported sibling => ?_⟩
    rw [sibling.source, resolves_typeDefsSource_iff]
    exact ⟨together, typeDefs_ne_nil flattened helpers sibling⟩

end Siblings

end Package

def placed (folder : Option String) : Manifest where
  service := { name := "s3", className := "S3", moduleName := "stubs_s3" }
  packageName := folder
  pypiName := "stubs-s3"
  shapes := [{ name := "FooTypeDef" }]
  client :=
    { name := "S3Client", aliasName := "Client",
      methods := [{ name := "get_foo", returnType := .ref "FooTypeDef" }] }

def placedPackage (folder : Option String) : Package where
  name := (placed folder).directory
  pypiName := "stubs-s3"
  service := (placed folder).service
  client := (placed folder).client
  registry := (Registry.empty "s3" .strict).add { name := "FooTypeDef" }
  typeDefs := [{ name := "FooTypeDef" }]
  presentation := { entries := [("FooTypeDef", .direct)] }

theorem placed_flatten (folder : Option String) :
    (placed folder).problem? = none ∧ ∃ package,
      (placed folder).toPackage .strict = .ok package ∧
      package.flatten = .ok (placedPackage folder) := by
  refine ⟨by cbv, { placedPackage folder with typeDefs := [], presentation := {} }, by rfl, ?_⟩
  cbv

theorem placed_importsResolve :
    (∃ package : Package, package.flatten = .ok (placedPackage none)) ∧
    (placedPackage none).ImportsResolve { output := ⟨"out"⟩, withSetup := true } := by
  obtain ⟨_, package, _, flattened⟩ := placed_flatten none
  obtain ⟨resolve, together⟩ :=
    Package.flatten_importsResolve_iff flattened { output := ⟨"out"⟩, withSetup := true }
  exact ⟨⟨package, flattened⟩,
    resolve.2 ⟨together rfl (by decide), fun nothing => nomatch nothing⟩⟩

/-- In a folder of another name, `from stubs_s3.client import S3Client` leads nowhere. -/
theorem placed_unresolved : (placed (some "stubs")).problem? = none ∧
    (∃ package, (placed (some "stubs")).toPackage .strict = .ok package ∧
      package.flatten = .ok (placedPackage (some "stubs"))) ∧
    ∃ imported ∈ (placedPackage (some "stubs")).exportImports,
      imported.statement = "from stubs_s3.client import S3Client" ∧
        ¬ (placedPackage (some "stubs")).Resolves { output := ⟨"out"⟩ } imported.source := by
  obtain ⟨accepted, package, made, flattened⟩ := placed_flatten (some "stubs")
  refine ⟨accepted, ⟨package, made, flattened⟩,
    (placedPackage (some "stubs")).componentImport .client "S3Client", List.mem_cons_self,
    by decide, ?_⟩
  rw [Package.resolves_componentImport_iff (by decide)]
  rintro ⟨⟨_, names⟩, _⟩
  revert names
  decide

end ServiceStubs
