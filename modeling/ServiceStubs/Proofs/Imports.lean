import ServiceStubs.Package
import ServiceStubs.Proofs.ImportSet
import ServiceStubs.Proofs.TypeExpr
/-!
The imports of each module against the types the module is written with. Two
leaf types whose imports agree in source and name share one import, and a
reference may so share the import of an external type that is named like it.
Hence a leaf type is promised an import of its name, and an import is traced
back to some leaf type with its source and name.
-/

namespace ServiceStubs

namespace ExternalType

theorem record_sibling (type : ExternalType) : type.record.sibling = false := by
  unfold record
  split <;> rfl

theorem record_source (type : ExternalType) : type.record.source = .ofDotted type.module := by
  unfold record
  split <;> rfl

theorem record_name (type : ExternalType) : type.record.name = some type.name := by
  unfold record
  split <;> rfl

end ExternalType

theorem ImportRecord.ofSibling_isBuiltins (module : PackageModule) (name : String) :
    (ofSibling module name).isBuiltins = false := by
  change (ModulePath.ofDotted module.name).isBuiltins = false
  cases module <;> decide

namespace TypeExpr
variable {type : TypeExpr} {record : ImportRecord}

theorem name_isSome_of_record (spelled : type.record = some record) : record.name.isSome := by
  cases type with
  | builtin name => cases spelled; rfl
  | external external => cases spelled; rw [external.record_name]; rfl
  | ref name => cases spelled; rfl
  | literal values => cases spelled; rfl
  | selfRef => cases spelled
  | container outer args => cases spelled

theorem isTypeDefs_of_record (spelled : type.record = some record) :
    record.isTypeDefs = true ↔ ∃ name, type = .ref name := by
  cases type with
  | builtin name => cases spelled; simp [ImportRecord.isTypeDefs, ImportRecord.named]
  | external external => cases spelled; simp [ImportRecord.isTypeDefs, external.record_sibling]
  | ref name =>
      cases spelled
      refine iff_of_true ?_ ⟨name, rfl⟩
      have own : (ModulePath.ofDotted PackageModule.typeDefs.name).package =
          PackageModule.typeDefs.name := by decide
      simp [ImportRecord.isTypeDefs, ImportRecord.ofSibling, own]
  | literal values =>
      cases spelled
      simp [ImportRecord.isTypeDefs, ImportRecord.gated, ImportRecord.named]
  | selfRef => cases spelled
  | container outer args => cases spelled

/-- Only a reference is imported from beside a module, namely from the definitions. -/
theorem ref_of_sibling (spelled : type.record = some record) (beside : record.sibling = true) :
    ∃ name, type = .ref name ∧ record = .ofSibling .typeDefs name := by
  cases type with
  | ref name =>
      cases spelled
      exact ⟨name, rfl, rfl⟩
  | external external =>
      cases spelled
      cases external.record_sibling.symm.trans beside
  | builtin name => cases spelled; cases beside
  | literal values => cases spelled; cases beside
  | selfRef => cases spelled
  | container outer args => cases spelled

end TypeExpr

/-- The leaf type occurs in one of `types` and is spelled with an import, which is `record`. -/
structure Imported (types : List TypeExpr) (leaf : TypeExpr) (record : ImportRecord) : Prop where
  occurs : ∃ type ∈ types, leaf ∈ type.atoms
  spelled : leaf.record = some record
  outside : record.isBuiltins = false

theorem Imported.mono {types more : List TypeExpr} {leaf : TypeExpr} {record : ImportRecord}
    (imported : Imported types leaf record) (contained : ∀ type, type ∈ types → type ∈ more) :
    Imported more leaf record := by
  obtain ⟨⟨type, written, atom⟩, spelled, outside⟩ := imported
  exact ⟨⟨type, contained type written, atom⟩, spelled, outside⟩

/-- The records import what the types are written with: each is the import of a leaf type, and
no leaf type goes without its name. -/
structure Covers (records : List ImportRecord) (types : List TypeExpr) : Prop where
  sound : ∀ record ∈ records, record.name.isSome ∧
    (record.isBuiltins = false → ∃ leaf, Imported types leaf record)
  complete : ∀ leaf record, Imported types leaf record →
    ∃ asked ∈ records, asked.isBuiltins = false ∧ asked.name = record.name

namespace Covers

theorem nil : Covers [] [] where
  sound := by simp
  complete := by
    rintro leaf record ⟨⟨type, impossible, _⟩, _, _⟩
    cases impossible

theorem append {records others : List ImportRecord} {types further : List TypeExpr}
    (left : Covers records types) (right : Covers others further) :
    Covers (records ++ others) (types ++ further) where
  sound := by
    intro record member
    rcases List.mem_append.1 member with here | there
    · obtain ⟨named, traced⟩ := left.sound record here
      refine ⟨named, fun outside => ?_⟩
      obtain ⟨leaf, imported⟩ := traced outside
      exact ⟨leaf, imported.mono fun type => List.mem_append_left further⟩
    · obtain ⟨named, traced⟩ := right.sound record there
      refine ⟨named, fun outside => ?_⟩
      obtain ⟨leaf, imported⟩ := traced outside
      exact ⟨leaf, imported.mono fun type => List.mem_append_right types⟩
  complete := by
    rintro leaf record ⟨⟨type, written, atom⟩, spelled, outside⟩
    rcases List.mem_append.1 written with here | there
    · obtain ⟨asked, member, fits⟩ :=
        left.complete leaf record ⟨⟨type, here, atom⟩, spelled, outside⟩
      exact ⟨asked, List.mem_append_left others member, fits⟩
    · obtain ⟨asked, member, fits⟩ :=
        right.complete leaf record ⟨⟨type, there, atom⟩, spelled, outside⟩
      exact ⟨asked, List.mem_append_right records member, fits⟩

theorem flatMap {α : Type} {items : List α} {records : α → List ImportRecord}
    {types : α → List TypeExpr} (each : ∀ item ∈ items, Covers (records item) (types item)) :
    Covers (items.flatMap records) (items.flatMap types) := by
  induction items with
  | nil => exact nil
  | cons item rest ih =>
      rw [List.flatMap_cons, List.flatMap_cons]
      refine (each item List.mem_cons_self).append (ih fun later member => ?_)
      exact each later (List.mem_cons_of_mem item member)

theorem atoms (types : List TypeExpr) :
    Covers ((TypeExpr.atomsOf types).filterMap TypeExpr.record) types where
  sound := by
    intro record member
    obtain ⟨leaf, listed, spelled⟩ := List.mem_filterMap.1 member
    refine ⟨TypeExpr.name_isSome_of_record spelled, fun outside => ⟨leaf, ?_, spelled, outside⟩⟩
    exact TypeExpr.mem_atomsOf.1 listed
  complete := by
    rintro leaf record ⟨occurs, spelled, outside⟩
    refine ⟨record, List.mem_filterMap.2 ⟨leaf, ?_, spelled⟩, outside, rfl⟩
    exact TypeExpr.mem_atomsOf.2 occurs

theorem ofList {records : List ImportRecord} {types : List TypeExpr}
    (covers : Covers records types) :
    Covers (Sorted.ofList ImportRecord.order (records.filter (!·.isBuiltins))) types where
  sound := fun record member =>
    covers.sound record (List.mem_filter.1 (Sorted.mem_of_mem_ofList member)).1
  complete := by
    intro leaf record imported
    obtain ⟨asked, member, outside, named⟩ := covers.complete leaf record imported
    have listed : asked ∈ records.filter (!·.isBuiltins) :=
      List.mem_filter.2 ⟨member, by simp [outside]⟩
    obtain ⟨kept, keptListed, same⟩ := Sorted.exists_mem_ofList_iff.2
      ⟨asked, listed, (Std.ReflCmp.compare_self : asked.order asked = .eq)⟩
    have keptOutside := (List.mem_filter.1 (Sorted.mem_of_mem_ofList keptListed)).2
    refine ⟨kept, keptListed, by simpa using keptOutside, ?_⟩
    exact (ImportRecord.order_eq_iff.1 same).2.trans named

end Covers

theorem ClassOutline.covers (outline : ClassOutline) :
    Covers outline.requiredImports outline.usedTypes :=
  (Covers.atoms outline.usedTypes).ofList

theorem Callable.covers (callable : Callable) :
    Covers (callable.types.filterMap TypeExpr.record) callable.annotations :=
  Covers.atoms callable.annotations

namespace Package

def classTypes (bases : List ExternalType) (methods : List Callable) : List TypeExpr :=
  bases.map .external ++ methods.flatMap (·.annotations)

/-- The types a module is written with: what its classes derive from, what its methods,
functions and attributes are annotated with, and what the fields of its definitions are. -/
def writtenTypes (package : Package) : PackageModule → List TypeExpr
  | .client =>
      classTypes package.client.bases package.client.methods
        ++ (package.client.exceptionsClass.bases.map .external
          ++ if package.client.exceptionsClass.exceptions.isEmpty then []
            else [package.client.exceptionsClass.attributeType])
        ++ package.helperFunctions.flatMap (·.annotations)
  | .serviceResource =>
      package.serviceResource.toList.flatMap fun resource =>
        classTypes resource.bases resource.methods
          ++ resource.subResources.flatMap fun sub => classTypes sub.bases sub.methods
  | .paginator =>
      package.paginators.flatMap fun paginator => classTypes paginator.bases paginator.methods
  | .waiter => package.waiters.flatMap fun waiter => classTypes waiter.bases waiter.methods
  | .typeDefs | .dataclassDefs =>
      package.typeDefs.flatMap fun descriptor => descriptor.fields.map (·.type)

/-- The module needs the import of a leaf type. The modules of the definitions have these
beside them and import none. -/
def Needs (package : Package) (module : PackageModule) (leaf : TypeExpr) (record : ImportRecord) :
    Prop :=
  Imported (package.writtenTypes module) leaf record ∧
    (module = .typeDefs ∨ module = .dataclassDefs → ∀ name, leaf ≠ .ref name)

def baseline (package : Package) : PackageModule → List ImportRecord
  | .typeDefs => if package.typeDefs.isEmpty then [] else typeDefsBaseline
  | .dataclassDefs => if package.typeDefs.isEmpty then [] else dataclassDefsBaseline
  | _ => []

variable (package : Package)

theorem addRequired_append (set : ImportSet) (records others : List ImportRecord) :
    package.addRequired set (records ++ others) =
      package.addRequired (package.addRequired set records) others :=
  List.foldl_append

theorem ofOutlines_eq (outlines : List ClassOutline) :
    package.ofOutlines outlines =
      package.addRequired {} (outlines.flatMap (·.requiredImports)) := by
  simp only [ofOutlines, addRequired, List.foldl_flatMap]

theorem clientImports_eq :
    package.clientImports = package.addRequired {}
      ([package.client.outline, package.client.exceptionsClass.outline].flatMap (·.requiredImports)
        ++ package.helperFunctions.flatMap fun function =>
          function.types.filterMap TypeExpr.record) := by
  rw [addRequired_append, ← ofOutlines_eq]
  simp only [clientImports, addRequired, List.foldl_flatMap]

theorem addFieldTypes_eq (set : ImportSet) :
    package.addFieldTypes set = package.addRequired set
      ((package.typeDefs.flatMap fun descriptor =>
        descriptor.childTypes.filterMap TypeExpr.record).filter (!·.isTypeDefs)) := by
  rw [addFieldTypes, addRequired, List.foldl_filter]
  congr 1
  funext found record
  cases own : record.isTypeDefs <;> simp [ImportSet.addChildType, own]

variable {package}

theorem serves_covered {records : List ImportRecord} {types : List TypeExpr}
    (covers : Covers records types) :
    ImportSet.Serves package.service.moduleName []
      (fun record => ∃ leaf, Imported types leaf record) (package.addRequired {} records) := by
  have added := (ImportSet.serves_empty package.service.moduleName []).addAll
    fun record member => (covers.sound record member).1
  apply added.congr
  · rintro record ⟨leaf, imported⟩
    obtain ⟨asked, member, outside, named⟩ := covers.complete leaf record imported
    exact ⟨asked, Or.inr ⟨member, outside⟩, named⟩
  · rintro asked (impossible | ⟨member, outside⟩)
    · exact impossible.elim
    · exact (covers.sound asked member).2 outside

theorem mem_fieldRecords {record : ImportRecord} :
    record ∈ (package.typeDefs.flatMap fun descriptor =>
        descriptor.childTypes.filterMap TypeExpr.record) ↔
      ∃ leaf, (∃ type ∈ package.writtenTypes .typeDefs, leaf ∈ type.atoms) ∧
        leaf.record = some record := by
  simp only [writtenTypes, List.mem_flatMap, List.mem_filterMap, Descriptor.childTypes,
    TypeExpr.mem_atomsOf]
  constructor
  · rintro ⟨descriptor, member, leaf, ⟨type, written, atom⟩, spelled⟩
    exact ⟨leaf, ⟨type, ⟨descriptor, member, written⟩, atom⟩, spelled⟩
  · rintro ⟨leaf, ⟨type, ⟨descriptor, member, written⟩, atom⟩, spelled⟩
    exact ⟨descriptor, member, leaf, ⟨type, written, atom⟩, spelled⟩

theorem needs_of_fieldRecord {record : ImportRecord}
    (member : record ∈ (package.typeDefs.flatMap fun descriptor =>
      descriptor.childTypes.filterMap TypeExpr.record).filter (!·.isTypeDefs))
    (outside : record.isBuiltins = false) : ∃ leaf, package.Needs .typeDefs leaf record := by
  obtain ⟨listed, other⟩ := List.mem_filter.1 member
  obtain ⟨leaf, occurs, spelled⟩ := mem_fieldRecords.1 listed
  refine ⟨leaf, ⟨occurs, spelled, outside⟩, fun _ name reference => ?_⟩
  have own := (TypeExpr.isTypeDefs_of_record spelled).2 ⟨name, reference⟩
  simp [own] at other

theorem serves_fields {set : ImportSet} {fixed : List ImportRecord}
    (serves : ImportSet.Serves package.service.moduleName fixed (fun _ => False) set) :
    ImportSet.Serves package.service.moduleName fixed
      (fun record => ∃ leaf, package.Needs .typeDefs leaf record) (package.addFieldTypes set) := by
  have named : ∀ record ∈ (package.typeDefs.flatMap fun descriptor =>
      descriptor.childTypes.filterMap TypeExpr.record).filter (!·.isTypeDefs),
      record.name.isSome := by
    intro record member
    obtain ⟨leaf, _, spelled⟩ := mem_fieldRecords.1 (List.mem_filter.1 member).1
    exact TypeExpr.name_isSome_of_record spelled
  rw [addFieldTypes_eq]
  apply (serves.addAll named).congr
  · rintro record ⟨leaf, ⟨occurs, spelled, outside⟩, noReference⟩
    have other : record.isTypeDefs = false := by
      apply Bool.eq_false_iff.2
      intro own
      obtain ⟨name, reference⟩ := (TypeExpr.isTypeDefs_of_record spelled).1 own
      exact noReference (Or.inl rfl) name reference
    have listed := mem_fieldRecords.2 ⟨leaf, occurs, spelled⟩
    exact ⟨record, Or.inr ⟨List.mem_filter.2 ⟨listed, by simp [other]⟩, outside⟩, rfl⟩
  · rintro record (impossible | ⟨member, outside⟩)
    · exact impossible.elim
    · exact needs_of_fieldRecord member outside

theorem needs_of_component {module : PackageModule}
    (component : module ≠ .typeDefs ∧ module ≠ .dataclassDefs) {leaf : TypeExpr}
    {record : ImportRecord} (imported : Imported (package.writtenTypes module) leaf record) :
    package.Needs module leaf record := by
  refine ⟨imported, fun definitions => ?_⟩
  rcases definitions with isTypeDefs | isDataclassDefs
  · exact absurd isTypeDefs component.1
  · exact absurd isDataclassDefs component.2

/-- Both modules of definitions need what the fields need. -/
theorem needs_dataclassDefs : package.Needs .dataclassDefs = package.Needs .typeDefs := by
  funext leaf record
  simp [Needs, writtenTypes]

theorem serves_component {module : PackageModule} {records : List ImportRecord}
    (component : module ≠ .typeDefs ∧ module ≠ .dataclassDefs)
    (covers : Covers records (package.writtenTypes module)) :
    ImportSet.Serves package.service.moduleName []
      (fun record => ∃ leaf, package.Needs module leaf record)
      (package.addRequired {} records) := by
  apply (serves_covered covers).congr
  · rintro record ⟨leaf, imported, _⟩
    exact ⟨record, ⟨leaf, imported⟩, rfl⟩
  · rintro record ⟨leaf, imported⟩
    exact ⟨leaf, needs_of_component component imported⟩

theorem serves_definitions {fixed : List ImportRecord}
    (named : ∀ record ∈ fixed, record.name.isSome) :
    ImportSet.Serves package.service.moduleName
      (if package.typeDefs.isEmpty then [] else ImportSet.versionCheck :: fixed)
      (fun record => ∃ leaf, package.Needs .typeDefs leaf record)
      (package.definitionImports (ImportSet.versionCheck :: fixed)) := by
  unfold definitionImports
  by_cases nothing : package.typeDefs.isEmpty
  · rw [if_pos nothing, if_pos nothing]
    refine (ImportSet.serves_empty _ []).congr (fun record needs => ?_) fun _ => False.elim
    obtain ⟨leaf, ⟨⟨type, written, _⟩, _, _⟩, _⟩ := needs
    rw [writtenTypes, List.isEmpty_iff.1 nothing] at written
    cases written
  · rw [if_neg nothing, if_neg nothing]
    exact serves_fields (ImportSet.serves_baseline _ named)

theorem writtenTypes_client (package : Package) :
    package.writtenTypes .client =
      [package.client.outline, package.client.exceptionsClass.outline].flatMap (·.usedTypes)
        ++ package.helperFunctions.flatMap (·.annotations) := by
  simp [writtenTypes, classTypes, ClassOutline.usedTypes, Client.outline, ExceptionsClass.outline]

theorem writtenTypes_serviceResource (package : Package) :
    package.writtenTypes .serviceResource =
      (package.serviceResource.map (·.outline)).toList.flatMap (·.usedTypes) := by
  cases absent : package.serviceResource <;>
    simp [writtenTypes, absent, classTypes, ClassOutline.usedTypes, ServiceResource.outline,
      Resource.outline]

theorem writtenTypes_paginator (package : Package) :
    package.writtenTypes .paginator =
      (package.paginators.map (·.outline)).flatMap (·.usedTypes) := by
  simp [writtenTypes, classTypes, ClassOutline.usedTypes, Paginator.outline, List.flatMap_map]

theorem writtenTypes_waiter (package : Package) :
    package.writtenTypes .waiter = (package.waiters.map (·.outline)).flatMap (·.usedTypes) := by
  simp [writtenTypes, classTypes, ClassOutline.usedTypes, Waiter.outline, List.flatMap_map]

theorem covered_outlines {module : PackageModule} {outlines : List ClassOutline}
    (asked : package.importSet module = package.ofOutlines outlines)
    (written : package.writtenTypes module = outlines.flatMap (·.usedTypes)) :
    ∃ records, package.importSet module = package.addRequired {} records ∧
      Covers records (package.writtenTypes module) := by
  refine ⟨outlines.flatMap (·.requiredImports), ?_, ?_⟩
  · rw [asked, ofOutlines_eq]
  · rw [written]
    exact Covers.flatMap fun outline _ => outline.covers

/-- What a module of classes imports is asked for by the types it is written with. -/
theorem covered_component {module : PackageModule}
    (component : module ≠ .typeDefs ∧ module ≠ .dataclassDefs) :
    ∃ records, package.importSet module = package.addRequired {} records ∧
      Covers records (package.writtenTypes module) := by
  cases module with
  | client =>
      refine ⟨_, package.clientImports_eq, ?_⟩
      rw [writtenTypes_client]
      exact (Covers.flatMap fun outline _ => outline.covers).append
        (Covers.flatMap fun function _ => function.covers)
  | serviceResource => exact covered_outlines rfl package.writtenTypes_serviceResource
  | paginator => exact covered_outlines rfl package.writtenTypes_paginator
  | waiter => exact covered_outlines rfl package.writtenTypes_waiter
  | typeDefs => exact absurd rfl component.1
  | dataclassDefs => exact absurd rfl component.2

theorem definitions_of_mem_baseline {module : PackageModule} {imported : ImportRecord}
    (fixed : imported ∈ package.baseline module) :
    imported ∈ typeDefsBaseline ∨ imported ∈ dataclassDefsBaseline := by
  cases module with
  | typeDefs =>
      rw [baseline] at fixed
      split at fixed
      · cases fixed
      · exact Or.inl fixed
  | dataclassDefs =>
      rw [baseline] at fixed
      split at fixed
      · cases fixed
      · exact Or.inr fixed
  | client | serviceResource | paginator | waiter => cases fixed

theorem baseline_of_component {module : PackageModule}
    (component : module ≠ .typeDefs ∧ module ≠ .dataclassDefs) : package.baseline module = [] := by
  cases module with
  | typeDefs => exact absurd rfl component.1
  | dataclassDefs => exact absurd rfl component.2
  | client | serviceResource | paginator | waiter => rfl

theorem serves_importSet (package : Package) (module : PackageModule) :
    ImportSet.Serves package.service.moduleName (package.baseline module)
      (fun record => ∃ leaf, package.Needs module leaf record) (package.importSet module) := by
  by_cases component : module ≠ .typeDefs ∧ module ≠ .dataclassDefs
  · obtain ⟨records, asked, covers⟩ := package.covered_component component
    rw [asked, baseline_of_component component]
    exact serves_component component covers
  cases module with
  | typeDefs =>
      exact serves_definitions (by simp [ImportRecord.gated, ImportRecord.named])
  | dataclassDefs =>
      rw [needs_dataclassDefs]
      exact serves_definitions (by simp [ImportRecord.named])
  | client | serviceResource | paginator | waiter => exact absurd (by simp) component

end Package

end ServiceStubs
