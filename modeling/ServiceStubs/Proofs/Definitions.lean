import Mathlib.Data.List.Permutation
import ServiceStubs.Proofs.Flattened
import ServiceStubs.Proofs.Imports
import ServiceStubs.Proofs.Spelling
import ServiceStubs.Stub
/-!
Whether the modules of a flattened package refer to its own definitions only.
The components decide which definitions there are, and their modules do keep to
these, as do the definitions themselves. Helper functions are written into the
client's module and have a say in its imports, yet they are no component: what
they refer to is defined only where a component leads to it.
-/

namespace ServiceStubs.Package

def typeDefsSource (package : Package) : ModulePath :=
  (ModulePath.ofDotted package.service.moduleName).join
    (ModulePath.ofDotted PackageModule.typeDefs.name)

/-- The module refers to definitions of the package only: each reference in what it is written
with names one, and so does each import from the package's own definitions that no external type
of the module asks for. -/
structure Defines (package : Package) (module : PackageModule) : Prop where
  annotations : ∀ type ∈ package.writtenTypes module, ∀ name ∈ type.references,
    name ∈ package.typeDefNames
  imports : ∀ imported ∈ package.imports module, imported.source = package.typeDefsSource →
    (∃ name ∈ package.typeDefNames, imported.name = some name) ∨
    ∃ external record, package.Needs module (.external external) record ∧
      imported.sameImport record

section Imports
variable {package : Package} {module : PackageModule}

theorem ofDotted_ne_typeDefsSource {source : String}
    (other : (ModulePath.ofDotted source).segments.getLast? ≠ some PackageModule.typeDefs.name) :
    ModulePath.ofDotted source ≠ package.typeDefsSource := by
  intro same
  have own : (ModulePath.ofDotted PackageModule.typeDefs.name).segments =
      [PackageModule.typeDefs.name] := by decide
  rw [same, typeDefsSource, ModulePath.join, own] at other
  simp at other

theorem source_ne_of_mem_baseline {imported : ImportRecord}
    (fixed : imported ∈ package.baseline module) : imported.source ≠ package.typeDefsSource := by
  have outside := definitions_of_mem_baseline fixed
  simp only [typeDefsBaseline, dataclassDefsBaseline, List.mem_cons, List.not_mem_nil, or_false]
    at outside
  rcases outside with (rfl | rfl) | (rfl | rfl | rfl | rfl | rfl | rfl) <;>
    exact ofDotted_ne_typeDefsSource (by decide)

/-- The import of a leaf type comes from the package's own definitions only for a reference or
an external type. -/
theorem imported_from_typeDefs {imported record : ImportRecord} {leaf : TypeExpr}
    (needs : package.Needs module leaf record)
    (same : imported.sameImport (record.absolute package.service.moduleName))
    (own : imported.source = package.typeDefsSource) :
    (∃ name, leaf = .ref name ∧ imported.name = some name) ∨
      ∃ external, leaf = .external external ∧ imported.sameImport record := by
  obtain ⟨⟨_, spelled, outside⟩, _⟩ := needs
  cases leaf with
  | builtin name =>
      cases spelled
      have inside : (ModulePath.ofDotted ModulePath.builtinsName).isBuiltins = true := by decide
      cases inside.symm.trans outside
  | external external =>
      cases spelled
      rw [ImportRecord.absolute_of_sibling_eq_false external.record_sibling] at same
      exact Or.inr ⟨external, rfl, same⟩
  | ref name =>
      cases spelled
      have named := (ImportRecord.sameImport_iff.1 same).2
      rw [ImportRecord.absolute_name] at named
      exact Or.inl ⟨name, rfl, named⟩
  | literal values =>
      cases spelled
      rw [ImportRecord.absolute_of_sibling_eq_false rfl, ImportRecord.sameImport_iff] at same
      exact absurd (same.1.symm.trans own) (ofDotted_ne_typeDefsSource (by decide))
  | selfRef => cases spelled
  | container outer args => cases spelled

theorem defines_of_annotations (annotations : ∀ type ∈ package.writtenTypes module,
    ∀ name ∈ type.references, name ∈ package.typeDefNames) : package.Defines module := by
  refine ⟨annotations, fun imported present own => ?_⟩
  rcases (package.serves_importSet module).minimal imported present with
    rfl | fixed | ⟨record, ⟨leaf, needs⟩, same⟩
  · exact absurd own (ofDotted_ne_typeDefsSource (by decide))
  · exact absurd own (source_ne_of_mem_baseline fixed)
  · rcases imported_from_typeDefs needs same own with
      ⟨name, rfl, named⟩ | ⟨external, rfl, sameRecord⟩
    · obtain ⟨⟨type, written, atom⟩, _, _⟩ := needs.1
      exact Or.inl ⟨name, annotations type written name (TypeExpr.ref_mem_atoms.1 atom), named⟩
    · exact Or.inr ⟨external, record, needs, sameRecord⟩

end Imports

section Flatten
variable {package flat : Package}

theorem exposes_of_written {component : ClassOutline} (member : component ∈ package.components)
    {type : TypeExpr} (written : type ∈ component.usedTypes) {name : String}
    (occurs : name ∈ type.references) : Flattened.Exposes package.components name :=
  ⟨component, member, TypeExpr.mem_atomsOf.2 ⟨type, written, TypeExpr.ref_mem_atoms.2 occurs⟩⟩

theorem flatten_cases (flattened : package.flatten = .ok flat) :
    ∃ definitions, Flattened.Closure package.registry.find?
        (Flattened.Exposes package.components) definitions ∧
      flat = package.setTypeDefs definitions := by
  unfold flatten at flattened
  split at flattened
  · cases flattened
  · rename_i definitions extracted
    cases flattened
    exact ⟨definitions, Flattened.ofComponents_closure extracted, rfl⟩

theorem references_of_exceptions {exceptions : ExceptionsClass} {type : TypeExpr}
    (written : type ∈ exceptions.outline.usedTypes) : type.references = [] := by
  simp only [ClassOutline.usedTypes, ExceptionsClass.outline, List.flatMap_nil, List.append_nil,
    List.mem_append, List.mem_map] at written
  rcases written with ⟨base, _, rfl⟩ | annotation
  · simp [TypeExpr.references]
  · split at annotation
    · cases annotation
    · obtain rfl := List.mem_singleton.1 annotation
      simp [ExceptionsClass.attributeType, TypeExpr.typing, TypeExpr.references,
        TypeExpr.referencesAll]

theorem component_of_outlines {outlines : List ClassOutline}
    (listed : ∀ outline ∈ outlines, outline ∈ package.components) {type : TypeExpr}
    (written : type ∈ outlines.flatMap (·.usedTypes)) :
    ∃ component ∈ package.components, type ∈ component.usedTypes := by
  obtain ⟨outline, chosen, used⟩ := List.mem_flatMap.1 written
  exact ⟨outline, listed outline chosen, used⟩

theorem component_of_written {module : PackageModule}
    (classes : module = .serviceResource ∨ module = .paginator ∨ module = .waiter)
    {type : TypeExpr} (written : type ∈ package.writtenTypes module) :
    ∃ component ∈ package.components, type ∈ component.usedTypes := by
  rcases classes with rfl | rfl | rfl
  · rw [writtenTypes_serviceResource] at written
    refine component_of_outlines (fun outline member => ?_) written
    exact List.mem_append_left _ (List.mem_append_left _ (List.mem_cons_of_mem _ member))
  · rw [writtenTypes_paginator] at written
    exact component_of_outlines (fun outline member => List.mem_append_right _ member) written
  · rw [writtenTypes_waiter] at written
    refine component_of_outlines (fun outline member => ?_) written
    exact List.mem_append_left _ (List.mem_append_right _ member)

section Closure
variable {definitions : Flattened}
  (closure : Flattened.Closure package.registry.find? (Flattened.Exposes package.components)
    definitions)
include closure

theorem defined_of_field {descriptor : Descriptor} (member : descriptor ∈ definitions.descriptors)
    {field : Field} (fieldOf : field ∈ descriptor.fields) {name : String}
    (occurs : name ∈ field.type.references) : name ∈ definitions.names := by
  have resolved := Registry.isResolved_of_find? (closure.standing descriptor member)
  exact closure.mem_names_of_reference member resolved fieldOf occurs

theorem defines_of_ne_client {module : PackageModule} (other : module ≠ .client) :
    (package.setTypeDefs definitions).Defines module := by
  apply defines_of_annotations
  intro type written name occurs
  by_cases classes : module = .serviceResource ∨ module = .paginator ∨ module = .waiter
  · obtain ⟨component, member, used⟩ := component_of_written classes written
    have exposed := exposes_of_written member used occurs
    exact (closure.mem_names_iff name).2 (Reached.start exposed)
  · have fields : type ∈ definitions.descriptors.flatMap (·.fields.map (·.type)) := by
      cases module with
      | client => exact absurd rfl other
      | typeDefs => exact written
      | dataclassDefs => exact written
      | serviceResource => exact absurd (Or.inl rfl) classes
      | paginator => exact absurd (Or.inr (Or.inl rfl)) classes
      | waiter => exact absurd (Or.inr (Or.inr rfl)) classes
    obtain ⟨descriptor, member, ofField⟩ := List.mem_flatMap.1 fields
    obtain ⟨field, fieldOf, rfl⟩ := List.mem_map.1 ofField
    exact defined_of_field closure member fieldOf occurs

theorem defines_client_iff :
    (package.setTypeDefs definitions).Defines .client ↔
      ∀ function ∈ package.helperFunctions, ∀ type ∈ function.annotations,
        ∀ name ∈ type.references,
          Reached package.registry.find? (Flattened.Exposes package.components) name := by
  have written : (package.setTypeDefs definitions).writtenTypes .client = _ :=
    package.writtenTypes_client
  constructor
  · intro defines function member type annotation name occurs
    refine (closure.mem_names_iff name).1 (defines.annotations type ?_ name occurs)
    rw [written]
    exact List.mem_append_right _ (List.mem_flatMap.2 ⟨function, member, annotation⟩)
  · intro reached
    apply defines_of_annotations
    intro type member name occurs
    rw [written] at member
    rcases List.mem_append.1 member with ofClass | ofFunction
    · obtain ⟨outline, listed, used⟩ := List.mem_flatMap.1 ofClass
      rcases List.mem_cons.1 listed with rfl | last
      · have member : package.client.outline ∈ package.components := by simp [components]
        have exposed := exposes_of_written member used occurs
        exact (closure.mem_names_iff name).2 (Reached.start exposed)
      · obtain rfl := List.mem_singleton.1 last
        rw [references_of_exceptions used] at occurs
        cases occurs
    · obtain ⟨function, helper, annotation⟩ := List.mem_flatMap.1 ofFunction
      exact (closure.mem_names_iff name).2 (reached function helper type annotation name occurs)

end Closure

/-- After flattening every module but the client's refers to definitions of the package only. The
client's does exactly when all that helper functions refer to is reached from some component. -/
theorem flatten_defines_iff (flattened : package.flatten = .ok flat) :
    ((∀ module, flat.Defines module) ↔
      ∀ function ∈ package.helperFunctions, ∀ type ∈ function.annotations,
        ∀ name ∈ type.references,
          Reached package.registry.find? (Flattened.Exposes package.components) name) ∧
    ∀ module, module ≠ .client → flat.Defines module := by
  obtain ⟨definitions, closure, rfl⟩ := flatten_cases flattened
  have others : ∀ module, module ≠ .client → (package.setTypeDefs definitions).Defines module :=
    fun module other => defines_of_ne_client closure other
  refine ⟨?_, others⟩
  rw [← defines_client_iff closure]
  constructor
  · exact fun defines => defines .client
  · intro defines module
    by_cases client : module = .client
    · exact client ▸ defines
    · exact others module client

end Flatten

def strayHelper : Package where
  name := "stubs_s3"
  pypiName := "stubs-s3"
  version := "1.2.3"
  service := { name := "s3", className := "S3", moduleName := "stubs_s3" }
  client := { name := "S3Client", aliasName := "Client" }
  helperFunctions := [{ name := "get_foo", returnType := .ref "FooTypeDef" }]
  registry := (Registry.empty "s3" .strict).add
    { name := "FooTypeDef", fields := [{ name := "Name", type := .builtin "str" }] }

theorem strayHelper_flatten : strayHelper.flatten = .ok strayHelper := by
  have extracted : strayHelper.extractTypeDefs = Flattened.ofRoots strayHelper.registry [] := rfl
  rw [flatten, extracted, Flattened.ofRoots_nil]
  rfl

theorem strayHelper_others : strayHelper.flatten = .ok strayHelper ∧
    ∀ module, module ≠ .client → strayHelper.Defines module :=
  ⟨strayHelper_flatten, (flatten_defines_iff strayHelper_flatten).2⟩

/-- The client's module imports a definition that the flattened package does not have. -/
theorem strayHelper_undefined : strayHelper.flatten = .ok strayHelper ∧
    (∃ imported ∈ strayHelper.imports .client,
      imported.source = strayHelper.typeDefsSource ∧ imported.name = some "FooTypeDef") ∧
    "FooTypeDef" ∉ strayHelper.typeDefNames ∧
    ¬ ∀ module, strayHelper.Defines module := by
  have absent : "FooTypeDef" ∉ strayHelper.typeDefNames := by decide
  refine ⟨strayHelper_flatten, by decide, absent, fun defines => absent ?_⟩
  have written : TypeExpr.ref "FooTypeDef" ∈ strayHelper.writtenTypes .client := by decide
  exact (defines .client).annotations _ written _ (by simp [TypeExpr.references])

end ServiceStubs.Package

/-!
The modules of definitions bind every name before they use it. What a definition
refers to is defined in the same module, definitions stand in name order, and a
reference is left unquoted only where its name is below that of the definition
it stands in. So whatever is unquoted has its own block further up.
-/

namespace ServiceStubs

namespace ModuleView
variable {table : PresentationTable} {descriptor : Descriptor} {child : String}

theorem mode_definitionTable (listed : child ∈ descriptor.children) :
    (definitionTable table descriptor).mode child =
      if compare child descriptor.name != .lt || table.isForwardRef child then .forwardRef
      else .direct := by
  unfold definitionTable
  rw [PresentationTable.mode_foldl_set, if_pos listed]

theorem compare_of_direct (listed : child ∈ descriptor.children)
    (direct : (definitionTable table descriptor).isForwardRef child = false) :
    compare child descriptor.name = .lt := by
  unfold PresentationTable.isForwardRef at direct
  rw [mode_definitionTable listed] at direct
  split at direct
  · cases direct
  · rename_i below
    simp only [Bool.or_eq_true, bne_iff_ne, not_or, ne_eq, Decidable.not_not] at below
    exact below.1

end ModuleView

namespace Package

def definitionPieces (package : Package) (descriptor : Descriptor) : List Piece :=
  descriptor.definitionPieces (ModuleView.definitionTable package.presentation descriptor)

def dataclassPieces (package : Package) (descriptor : Descriptor) : List Piece :=
  descriptor.dataclassPieces (ModuleView.definitionTable package.presentation descriptor)

/-- The blocks are the definitions of the package, spelled in pieces, and refer to what the fields
refer to. A reference without quotes is to a definition further up, and one to a definition
further down has quotes. -/
structure BindsFirst (package : Package) (rename : String → String)
    (spell : Descriptor → List Piece) (blocks : List String) : Prop where
  text : blocks = package.typeDefs.map fun descriptor => Piece.join rename (spell descriptor)
  references : ∀ descriptor ∈ package.typeDefs,
    (Piece.references (spell descriptor)).Perm (descriptor.fields.flatMap (·.type.references))
  bound : ∀ (position : Nat) (descriptor : Descriptor),
    package.typeDefs[position]? = some descriptor → ∀ name, .bare name ∈ spell descriptor →
      ∃ earlier < position, package.typeDefNames[earlier]? = some name
  quoted : ∀ (position : Nat) (descriptor : Descriptor),
    package.typeDefs[position]? = some descriptor → ∀ (later : Nat) (name : String),
      position < later → package.typeDefNames[later]? = some name →
      ∀ piece ∈ spell descriptor, piece.reference? = some name → piece = .quoted name

section Closure
variable {flattened : Flattened} {lookUp : String → Option Descriptor} {start : String → Prop}
  {table : PresentationTable} {descriptor : Descriptor} {pieces : List Piece} {name : String}

/-- What a definition refers to without quotes is defined, under a name below its own. -/
theorem below_of_bare (closure : Flattened.Closure lookUp start flattened)
    (member : descriptor ∈ flattened.descriptors) (resolved : descriptor.IsResolved)
    (references : (Piece.references pieces).Perm (descriptor.fields.flatMap (·.type.references)))
    (follow : Piece.Follow (ModuleView.definitionTable table descriptor) pieces)
    (bare : .bare name ∈ pieces) :
    name ∈ flattened.names ∧ compare name descriptor.name = .lt := by
  have occurs := references.mem_iff.1 (Piece.mem_references_of_bare bare)
  obtain ⟨field, fieldOf, occurs⟩ := List.mem_flatMap.1 occurs
  refine ⟨closure.mem_names_of_reference member resolved fieldOf occurs, ?_⟩
  have child : name ∈ descriptor.children :=
    Descriptor.mem_children.2 ⟨fun same => resolved field fieldOf (same ▸ occurs),
      field, fieldOf, occurs⟩
  apply ModuleView.compare_of_direct child
  have presented := follow (.bare name) bare name rfl
  unfold Piece.presented at presented
  split at presented
  · cases presented
  · rename_i direct
    simpa using direct

end Closure

theorem bindsFirst_of_follow {package : Package} {flattened : Flattened}
    {lookUp : String → Option Descriptor} {start : String → Prop}
    (closure : Flattened.Closure lookUp start flattened)
    (resolved : ∀ descriptor ∈ flattened.descriptors, descriptor.IsResolved)
    {rename : String → String} {spell : Descriptor → List Piece} {blocks : List String}
    (text : blocks =
      flattened.descriptors.map fun descriptor => Piece.join rename (spell descriptor))
    (references : ∀ descriptor : Descriptor, (Piece.references (spell descriptor)).Perm
      (descriptor.fields.flatMap (·.type.references)))
    (follow : ∀ descriptor, Piece.Follow
      (ModuleView.definitionTable flattened.presentation descriptor) (spell descriptor)) :
    (package.setTypeDefs flattened).BindsFirst rename spell blocks := by
  have increasing := Flattened.Work.names_increasing closure.increasing
  have below : ∀ (position : Nat) (descriptor : Descriptor) (name : String),
      flattened.descriptors[position]? = some descriptor → .bare name ∈ spell descriptor →
        name ∈ flattened.names ∧ flattened.names[position]? = some descriptor.name ∧
          compare name descriptor.name = .lt := by
    intro position descriptor name placed bare
    have member := List.mem_of_getElem? placed
    obtain ⟨defined, before⟩ := below_of_bare closure member (resolved descriptor member)
      (references descriptor) (follow descriptor) bare
    exact ⟨defined, by simp [Flattened.names, placed], before⟩
  refine ⟨text, fun descriptor _ => references descriptor, ?_, ?_⟩
  · intro position descriptor placed name bare
    obtain ⟨defined, own, before⟩ := below position descriptor name placed bare
    obtain ⟨earlier, found⟩ := List.mem_iff_getElem?.1 defined
    exact ⟨earlier, increasing.index_lt found own before, found⟩
  · intro position descriptor placed later name after found piece occurs named
    cases piece with
    | plain text => cases named
    | quoted other =>
        cases named
        rfl
    | bare other =>
        cases named
        obtain ⟨_, own, before⟩ := below position descriptor name placed occurs
        have sooner := increasing.index_lt found own before
        omega

/-- Once a package has the definitions that flattening came to, both modules of definitions bind
every name before they use it. -/
theorem setTypeDefs_bindsFirst {registry : Registry} {roots : List Descriptor}
    {flattened : Flattened} (succeeded : Flattened.ofRoots registry roots = .ok flattened)
    (package : Package) :
    let flat := package.setTypeDefs flattened
    flat.BindsFirst id flat.definitionPieces (ModuleView.typeDefs flat).blocks ∧
      flat.BindsFirst dataclassName flat.dataclassPieces
        (ModuleView.dataclassDefs flat).blocks := by
  have closure := Flattened.ofRoots_closure succeeded
  have rootsResolved : ∀ root ∈ roots.map Descriptor.resolve, root.IsResolved := by
    intro root member
    obtain ⟨given, _, rfl⟩ := List.mem_map.1 member
    exact given.isResolved_resolve
  have resolved : ∀ descriptor ∈ flattened.descriptors, descriptor.IsResolved :=
    fun descriptor member =>
      Registry.isResolved_of_standing rootsResolved (closure.standing descriptor member)
  constructor
  · refine bindsFirst_of_follow closure resolved ?_
      (fun descriptor => descriptor.references_definitionPieces _)
      (fun descriptor => descriptor.follow_definitionPieces _)
    simp [ModuleView.typeDefs, setTypeDefs, definitionPieces, Descriptor.join_definitionPieces]
  · refine bindsFirst_of_follow closure resolved ?_
      (fun descriptor => descriptor.references_dataclassPieces _)
      (fun descriptor => descriptor.follow_dataclassPieces _)
    simp [ModuleView.dataclassDefs, setTypeDefs, dataclassPieces, Descriptor.join_dataclassPieces]

def knotShapes : List Descriptor :=
  [{ name := "ATypeDef", fields := [{ name := "B", type := .listOf (.ref "BTypeDef") }] },
   { name := "BTypeDef", fields := [{ name := "A", type := .ref "ATypeDef", required := false }] }]

def knotDefinitions : Flattened where
  descriptors := knotShapes
  presentation := { entries := [("ATypeDef", .direct), ("BTypeDef", .direct)] }

def knot : Package where
  name := "stubs_s3"
  pypiName := "stubs-s3"
  version := "1.2.3"
  service := { name := "s3", className := "S3", moduleName := "stubs_s3" }
  client := { name := "S3Client", aliasName := "Client" }
  registry := knotShapes.foldl Registry.add (Registry.empty "s3" .strict)

theorem knot_bindsFirst :
    Flattened.ofRoots knot.registry knotShapes = .ok knotDefinitions ∧
    let flat := knot.setTypeDefs knotDefinitions
    flat.BindsFirst id flat.definitionPieces (ModuleView.typeDefs flat).blocks ∧
      flat.BindsFirst dataclassName flat.dataclassPieces
        (ModuleView.dataclassDefs flat).blocks := by
  have succeeded : Flattened.ofRoots knot.registry knotShapes = .ok knotDefinitions := by cbv
  exact ⟨succeeded, setTypeDefs_bindsFirst succeeded knot⟩

end Package

end ServiceStubs
