import Mathlib.Order.Defs.LinearOrder
import ServiceStubs.Proofs.Definitions
import ServiceStubs.Proofs.ImportSet
import ServiceStubs.Proofs.Imports
import ServiceStubs.Proofs.TypeOrder
import ServiceStubs.Proofs.VersionCheck
/-!
Whether the definitions of a package import anything from themselves. What
they refer to by name stands beside them and is left out. An external type is
taken as it is given, and its path may be that of the definitions.
-/

namespace ServiceStubs.Package

/-- A field of a definition is written with the external type, however deep it stands. -/
def FieldsUse (package : Package) (external : ExternalType) : Prop :=
  ∃ descriptor ∈ package.typeDefs, ∃ field ∈ descriptor.fields,
    .external external ∈ field.type.atoms

def ImportsDefinitions (package : Package) (module : PackageModule) : Prop :=
  ∃ imported ∈ package.imports module, imported.source = package.typeDefsSource

variable {package : Package} {module : PackageModule}

theorem fieldsUse_iff {external : ExternalType} : package.FieldsUse external ↔
    ∃ type ∈ package.writtenTypes .typeDefs, .external external ∈ type.atoms := by
  unfold FieldsUse writtenTypes
  constructor
  · rintro ⟨descriptor, defined, field, listed, atom⟩
    exact ⟨field.type, List.mem_flatMap.2 ⟨descriptor, defined, List.mem_map_of_mem listed⟩, atom⟩
  · rintro ⟨type, written, atom⟩
    obtain ⟨descriptor, defined, typed⟩ := List.mem_flatMap.1 written
    obtain ⟨field, listed, rfl⟩ := List.mem_map.1 typed
    exact ⟨descriptor, defined, field, listed, atom⟩

/-- Only an external type leads a module of definitions back to these. -/
theorem external_of_source (definitions : module = .typeDefs ∨ module = .dataclassDefs)
    {imported : ImportRecord} (present : imported ∈ package.imports module)
    (own : imported.source = package.typeDefsSource) :
    ∃ external : ExternalType, package.FieldsUse external ∧ external.record.isBuiltins = false ∧
      imported = external.record := by
  rcases imports_traced present with rfl | fixed | ⟨leaf, record, needs, rfl⟩
  · exact absurd own (ofDotted_ne_typeDefsSource (by decide))
  · exact absurd own (source_ne_of_mem_baseline fixed)
  · rcases imported_from_typeDefs needs (ImportRecord.sameImport_iff.2 ⟨rfl, rfl⟩) own with
      ⟨name, rfl, _⟩ | ⟨external, rfl, _⟩
    · exact absurd rfl (needs.2 definitions name)
    · obtain ⟨⟨occurs, spelled, outside⟩, _⟩ := needs
      cases spelled
      refine ⟨external, fieldsUse_iff.2 ?_, outside, ?_⟩
      · rcases definitions with rfl | rfl <;> exact occurs
      · exact ImportRecord.absolute_of_sibling_eq_false external.record_sibling _

theorem definitionImports_eq_run (some : package.typeDefs ≠ []) (fixed : List ImportRecord) :
    package.definitionImports fixed = ImportSet.run (.insertAll fixed ::
      (package.typeDefs.flatMap fun descriptor =>
        descriptor.childTypes.filterMap TypeExpr.record).map
          (.addChildType · package.service.moduleName)) := by
  rw [definitionImports, if_neg (by simpa using some), ImportSet.run, List.foldl_cons,
    List.foldl_map]
  rfl

theorem exists_source_of_fieldsUse {external : ExternalType} (used : package.FieldsUse external)
    (outside : external.record.isBuiltins = false) (fixed : List ImportRecord) :
    ∃ imported ∈ (package.definitionImports fixed).records,
      imported.source = external.record.source := by
  have some : package.typeDefs ≠ [] := by
    obtain ⟨descriptor, defined, _⟩ := used
    exact List.ne_nil_of_mem defined
  have other : external.record.isTypeDefs = false := by
    simp [ImportRecord.isTypeDefs, external.record_sibling]
  have asked := mem_fieldRecords.2 ⟨.external external, fieldsUse_iff.1 used, rfl⟩
  have written : external.record ∈ (ImportSet.Operation.addChildType external.record
      package.service.moduleName).writes := by
    rw [ImportSet.Operation.writes, other, outside, ImportSet.Operation.requiredWrites,
      ImportRecord.absolute_of_sibling_eq_false external.record_sibling]
    cases external.record.needsVersionCheck <;> simp
  have kept : external.record.identity ∈
      (package.definitionImports fixed).records.map ImportRecord.identity := by
    rw [definitionImports_eq_run some, ImportSet.mem_identities_run]
    exact ⟨_, List.mem_cons_of_mem _ (List.mem_map_of_mem asked), external.record, written, rfl⟩
  obtain ⟨imported, present, same⟩ := List.mem_map.1 kept
  exact ⟨imported, present, congrArg Prod.fst same⟩

/-- The modules of the definitions import something from these exactly when a field is written with
an external type of their path, and then it is that type. Names of the interpreter are not
imported, whatever is below them. -/
theorem importsDefinitions_iff (package : Package)
    (definitions : module = .typeDefs ∨ module = .dataclassDefs) :
    (package.ImportsDefinitions module ↔
      package.typeDefsSource.isBuiltins = false ∧ ∃ external : ExternalType,
        package.FieldsUse external ∧
        ModulePath.ofDotted external.module = package.typeDefsSource) ∧
    ∀ imported ∈ package.imports module, imported.source = package.typeDefsSource →
      ∃ external : ExternalType, package.FieldsUse external ∧ imported = external.record := by
  refine ⟨⟨?_, ?_⟩, fun imported present own => ?_⟩
  · rintro ⟨imported, present, own⟩
    obtain ⟨external, used, outside, rfl⟩ := external_of_source definitions present own
    have outside : external.record.source.isBuiltins = false := outside
    refine ⟨own ▸ outside, external, used, ?_⟩
    rw [← external.record_source, own]
  · rintro ⟨outside, external, used, own⟩
    rw [← external.record_source] at own
    rw [← own] at outside
    obtain ⟨fixed, asked⟩ : ∃ fixed, package.importSet module = package.definitionImports fixed := by
      rcases definitions with rfl | rfl <;> exact ⟨_, rfl⟩
    obtain ⟨imported, present, same⟩ := exists_source_of_fieldsUse used outside fixed
    refine ⟨imported, ?_, same.trans own⟩
    rw [imports, asked]
    exact present
  · obtain ⟨external, used, _, same⟩ := external_of_source definitions present own
    exact ⟨external, used, same⟩

def bar (path : String) : ExternalType :=
  { module := path, name := "BarTypeDef" }

def listing (path : String) : Package where
  name := "stubs_s3"
  pypiName := "stubs-s3"
  version := "1.2.3"
  service := { name := "s3", className := "S3", moduleName := "stubs_s3" }
  client :=
    { name := "S3Client"
      aliasName := "Client"
      methods := [{ name := "get_foo", returnType := .ref "FooTypeDef" }] }
  registry := (Registry.empty "s3" .strict).add
    { name := "FooTypeDef"
      fields := [{ name := "Bars", type := .listOf (.external (bar path)) }] }

def listed (path : String) : Package :=
  { listing path with
    typeDefs :=
      [{ name := "FooTypeDef"
         fields := [{ name := "Bars", type := .listOf (.external (bar path)) }] }]
    presentation := { entries := [("FooTypeDef", .direct)] } }

theorem listing_flatten (path : String) : (listing path).flatten = .ok (listed path) := by
  cbv

theorem fieldsUse_listed {path : String} {external : ExternalType}
    (used : (listed path).FieldsUse external) :
    external = { module := "typing", name := "List" } ∨ external = bar path := by
  obtain ⟨descriptor, defined, field, member, atom⟩ := used
  rw [List.mem_singleton.1 defined] at member
  rw [List.mem_singleton.1 member, TypeExpr.mem_atoms] at atom
  simpa [TypeExpr.listOf, TypeExpr.typing, TypeExpr.leaves, TypeExpr.leavesAll] using atom

/-- A path below that of the definitions is another one. -/
theorem listed_importsNone :
    (listing "stubs_s3.type_defs.bars").flatten = .ok (listed "stubs_s3.type_defs.bars") ∧
    ¬ (listed "stubs_s3.type_defs.bars").ImportsDefinitions .typeDefs := by
  refine ⟨listing_flatten _, fun imports => ?_⟩
  obtain ⟨_, external, used, own⟩ := (importsDefinitions_iff _ (Or.inl rfl)).1.1 imports
  rcases fieldsUse_listed used with rfl | rfl
  · exact absurd own (by decide)
  · exact absurd own (by decide)

/-- However a path is dotted, it may be that of the definitions. -/
theorem listed_importsItself :
    (listing "stubs_s3.type_defs").flatten = .ok (listed "stubs_s3.type_defs") ∧
    (bar "stubs_s3.type_defs").record.statement = "from stubs_s3.type_defs import BarTypeDef" ∧
    (bar "stubs_s3.type_defs").record.source = (listed "stubs_s3.type_defs").typeDefsSource ∧
    (bar "stubs_s3.type_defs").record ∈ (listed "stubs_s3.type_defs").imports .typeDefs ∧
    (bar "stubs_s3.type_defs").record ∈ (listed "stubs_s3.type_defs").imports .dataclassDefs := by
  have first : ((listed "stubs_s3.type_defs").imports .typeDefs)[0]? =
      some (bar "stubs_s3.type_defs").record := rfl
  have fifth : ((listed "stubs_s3.type_defs").imports .dataclassDefs)[4]? =
      some (bar "stubs_s3.type_defs").record := rfl
  exact ⟨listing_flatten _, by decide, by decide, List.mem_of_getElem? first,
    List.mem_of_getElem? fifth⟩

end ServiceStubs.Package

/-!
The imports of a class as a file of its package spells them. Imports are told
apart by source and name while the source of a sibling is still relative, and
whether it is one does not count. A reference and an external type of the same
name are then taken for one import if the external type is of a module that is
called like the sibling, and only the reference's import is left.
-/

namespace ServiceStubs

namespace ModulePath

/-- A path below another is the same path only if that is empty. -/
theorem join_eq_self_iff {path other : ModulePath} : path.join other = other ↔ path.isEmpty := by
  obtain ⟨segments⟩ := path
  obtain ⟨others⟩ := other
  simp [join, isEmpty]

theorem builtins_ne_typeDefs : ofDotted builtinsName ≠ ofDotted PackageModule.typeDefs.name := by
  decide

theorem typing_ne_typeDefs : ofDotted "typing" ≠ ofDotted PackageModule.typeDefs.name := by
  decide

end ModulePath

namespace ImportRecord
variable {a b record : ImportRecord} {module : String}

theorem sibling_absolute (record : ImportRecord) (module : String) :
    (record.absolute module).sibling = false := by
  cases beside : record.sibling <;> simp [absolute, beside]

theorem absolute_absolute (record : ImportRecord) (module other : String) :
    (record.absolute module).absolute other = record.absolute module :=
  absolute_of_sibling_eq_false (record.sibling_absolute module) other

theorem absolute_eq (record : ImportRecord) (module : String) :
    record.absolute module =
      { record with source := (record.absolute module).source, sibling := false } := by
  obtain ⟨source, name, localName, minVersion, fallback, sibling⟩ := record
  cases sibling <;> rfl

theorem identity_absolute_of_sibling (beside : record.sibling = true) (module : String) :
    (record.absolute module).identity =
      ((ModulePath.ofDotted module).join record.source, record.name) := by
  simp [absolute, beside, identity]

/-- Records of one identity are spelled alike unless one of them alone is a sibling's. -/
theorem identity_absolute_eq_iff (same : a.identity = b.identity) :
    (a.absolute module).identity = (b.absolute module).identity ↔
      (ModulePath.ofDotted module).isEmpty ∨ a.sibling = b.sibling := by
  obtain ⟨sources, names⟩ := Prod.mk.inj same
  cases first : a.sibling <;> cases second : b.sibling
  · rw [absolute_of_sibling_eq_false first, absolute_of_sibling_eq_false second]
    exact iff_of_true same (Or.inr rfl)
  · rw [absolute_of_sibling_eq_false first, identity_absolute_of_sibling second, identity,
      Prod.mk.injEq, sources, eq_comm, ModulePath.join_eq_self_iff]
    simp [names]
  · rw [absolute_of_sibling_eq_false second, identity_absolute_of_sibling first, identity,
      Prod.mk.injEq, sources, ModulePath.join_eq_self_iff]
    simp [names]
  · rw [identity_absolute_of_sibling first, identity_absolute_of_sibling second, sources, names]
    exact iff_of_true rfl (Or.inr rfl)

end ImportRecord

theorem ExternalType.record_order_ofSibling {external : ExternalType}
    (path : ModulePath.ofDotted external.module = .ofDotted PackageModule.typeDefs.name) :
    external.record.order (.ofSibling .typeDefs external.name) = .eq := by
  rw [ImportRecord.order_eq_iff, external.record_source, external.record_name, path]
  exact ⟨rfl, rfl⟩

/-- What an outside record has to be to compare equal to the import of a reference. -/
theorem TypeExpr.external_of_order_eq {leaf : TypeExpr} {record : ImportRecord} {name : String}
    (spelled : leaf.record = some record) (outside : record.sibling = false)
    (same : record.order (.ofSibling .typeDefs name) = .eq) :
    ∃ external : ExternalType, leaf = .external external ∧ external.name = name ∧
      ModulePath.ofDotted external.module = .ofDotted PackageModule.typeDefs.name := by
  obtain ⟨source, named⟩ := ImportRecord.order_eq_iff.1 same
  cases leaf with
  | external external =>
      cases spelled
      rw [external.record_source] at source
      rw [external.record_name] at named
      exact ⟨external, rfl, Option.some.inj named, source⟩
  | ref _ => cases spelled; cases outside
  | builtin _ => cases spelled; exact absurd source ModulePath.builtins_ne_typeDefs
  | literal _ => cases spelled; exact absurd source ModulePath.typing_ne_typeDefs
  | selfRef => cases spelled
  | container _ _ => cases spelled

namespace ClassOutline
variable {outline : ClassOutline} {module : String}

def neededRecords (outline : ClassOutline) : List ImportRecord :=
  (outline.types.filterMap TypeExpr.record).filter (!·.isBuiltins)

/-- A leaf type of the class needs an import which a file of the package at `module` spells with
this source and name. -/
def NeedsIdentity (outline : ClassOutline) (module : String)
    (identity : ModulePath × Option String) : Prop :=
  ∃ leaf ∈ outline.types, ∃ record, leaf.record = some record ∧ record.isBuiltins = false ∧
    (record.absolute module).identity = identity

def identities (outline : ClassOutline) (module : String) : List (ModulePath × Option String) :=
  outline.requiredImports.map fun record => (record.absolute module).identity

/-- The class has a reference and an external type of one name, and the module of the external
type is called like that of the definitions. -/
def Mistakable (outline : ClassOutline) : Prop :=
  ∃ external : ExternalType, .external external ∈ outline.types ∧
    .ref external.name ∈ outline.types ∧
    ModulePath.ofDotted external.module = .ofDotted PackageModule.typeDefs.name

theorem mem_neededRecords {record : ImportRecord} : record ∈ outline.neededRecords ↔
    ∃ leaf ∈ outline.types, leaf.record = some record ∧ record.isBuiltins = false := by
  rw [neededRecords, List.mem_filter, List.mem_filterMap, Bool.not_eq_true']
  simp only [exists_and_right, ← and_assoc]

theorem needsIdentity_iff {identity : ModulePath × Option String} :
    outline.NeedsIdentity module identity ↔
      identity ∈ outline.neededRecords.map fun record => (record.absolute module).identity := by
  simp only [NeedsIdentity, List.mem_map, mem_neededRecords]
  constructor
  · rintro ⟨leaf, listed, record, spelled, outside, same⟩
    exact ⟨record, ⟨leaf, listed, spelled, outside⟩, same⟩
  · rintro ⟨record, ⟨leaf, listed, spelled, outside⟩, same⟩
    exact ⟨leaf, listed, record, spelled, outside, same⟩

theorem mistakable_of_order_eq {a b : ImportRecord} (first : a ∈ outline.neededRecords)
    (second : b ∈ outline.neededRecords) (outside : a.sibling = false) (beside : b.sibling = true)
    (same : a.order b = .eq) : outline.Mistakable := by
  obtain ⟨leaf, listed, spelled, _⟩ := mem_neededRecords.1 first
  obtain ⟨leaf', listed', spelled', _⟩ := mem_neededRecords.1 second
  obtain ⟨name, rfl, rfl⟩ := TypeExpr.ref_of_sibling spelled' beside
  obtain ⟨external, rfl, rfl, path⟩ := TypeExpr.external_of_order_eq spelled outside same
  exact ⟨external, listed, listed', path⟩

theorem sibling_eq_of_order_eq (clear : ¬ outline.Mistakable) {a b : ImportRecord}
    (first : a ∈ outline.neededRecords) (second : b ∈ outline.neededRecords)
    (same : a.order b = .eq) : a.sibling = b.sibling := by
  cases left : a.sibling <;> cases right : b.sibling
  · rfl
  · exact absurd (mistakable_of_order_eq first second left right same) clear
  · have swapped : b.order a = .eq := Std.OrientedCmp.eq_symm same
    exact absurd (mistakable_of_order_eq second first right left swapped) clear
  · rfl

/-- External types stand before references, so the import of a reference that is taken for that of
an external type is the later one. -/
theorem pairwise_neededRecords (outline : ClassOutline) :
    outline.neededRecords.Pairwise fun earlier later =>
      earlier.sibling = true → later.sibling = false → later.order earlier ≠ .eq := by
  have increasing : Sorted.Increasing TypeExpr.order outline.types := Sorted.increasing_ofList _
  refine List.Pairwise.filter _ (List.pairwise_filterMap.2 (increasing.imp ?_))
  intro leaf leaf' before record spelled record' spelled' beside outside same
  obtain ⟨name, rfl, rfl⟩ := TypeExpr.ref_of_sibling spelled beside
  obtain ⟨external, rfl, _⟩ := TypeExpr.external_of_order_eq spelled' outside same
  cases before

theorem not_mem_requiredImports {a b : ImportRecord} (second : b ∈ outline.neededRecords)
    (outside : a.sibling = false) (beside : b.sibling = true) (same : a.order b = .eq) :
    a ∉ outline.requiredImports := by
  intro kept
  obtain ⟨before, after, split, last⟩ := Sorted.mem_ofList_iff_last.1 kept
  have split : outline.neededRecords = before ++ a :: after := split
  have pairs := outline.pairwise_neededRecords
  rw [split] at second pairs
  rcases List.mem_append.1 second with earlier | later
  · have apart := (List.pairwise_append.1 pairs).2.2 b earlier a List.mem_cons_self
    exact apart beside outside same
  · rcases List.mem_cons.1 later with rfl | later
    · rw [outside] at beside
      cases beside
    · exact last b later (Std.OrientedCmp.eq_symm same)

theorem sibling_eq_false_of_source {record : ImportRecord} (needed : record ∈ outline.neededRecords)
    (below : (ModulePath.ofDotted module).isEmpty = false)
    (source : (record.absolute module).source = .ofDotted PackageModule.typeDefs.name) :
    record.sibling = false := by
  cases beside : record.sibling with
  | false => rfl
  | true =>
      obtain ⟨_, _, spelled, _⟩ := mem_neededRecords.1 needed
      obtain ⟨name, _, rfl⟩ := TypeExpr.ref_of_sibling spelled beside
      have joined := congrArg Prod.fst (ImportRecord.identity_absolute_of_sibling beside module)
      have self := ModulePath.join_eq_self_iff.1 (joined.symm.trans source)
      rw [below] at self
      cases self

/-- Of the two imports only that of the reference is kept, and below a module it has another source
than the external type's. -/
theorem exists_needsIdentity_not_mem (mistakable : outline.Mistakable)
    (below : (ModulePath.ofDotted module).isEmpty = false) :
    ∃ identity, outline.NeedsIdentity module identity ∧ identity ∉ outline.identities module := by
  obtain ⟨external, listed, listed', path⟩ := mistakable
  have source : external.record.source = .ofDotted PackageModule.typeDefs.name := by
    rw [external.record_source, path]
  have outside : external.record.isBuiltins = false := by
    rw [ImportRecord.isBuiltins, source]
    decide
  have alike : external.record.order (.ofSibling .typeDefs external.name) = .eq :=
    ExternalType.record_order_ofSibling path
  have reference : .ofSibling .typeDefs external.name ∈ outline.neededRecords :=
    mem_neededRecords.2 ⟨_, listed', rfl, ImportRecord.ofSibling_isBuiltins _ _⟩
  have unchanged := ImportRecord.absolute_of_sibling_eq_false external.record_sibling module
  refine ⟨external.record.identity, ⟨_, listed, _, rfl, outside, by rw [unchanged]⟩, fun kept => ?_⟩
  obtain ⟨record, kept, same⟩ := List.mem_map.1 kept
  have apart : record.sibling = false := by
    refine sibling_eq_false_of_source (Sorted.mem_of_mem_ofList kept) below ?_
    exact (congrArg Prod.fst same).trans source
  rw [ImportRecord.absolute_of_sibling_eq_false apart] at same
  have taken : record.order (.ofSibling .typeDefs external.name) = .eq :=
    ImportRecord.order_eq_iff_identity.2 <|
      same.trans (ImportRecord.order_eq_iff_identity.1 alike)
  exact not_mem_requiredImports reference apart rfl taken kept

/-- The imports a class asks for are spelled by a file of the package as those of its leaf types
are, unless two of them have been taken for one. Records that compare equal are spelled alike
unless one of them alone is a sibling's. -/
theorem identities_iff (outline : ClassOutline) (module : String) :
    ((∀ identity, identity ∈ outline.identities module ↔ outline.NeedsIdentity module identity) ↔
      (ModulePath.ofDotted module).isEmpty ∨ ¬ outline.Mistakable) ∧
    (∀ a b : ImportRecord, a.order b = .eq →
      ((a.absolute module).order (b.absolute module) = .eq ↔
        (ModulePath.ofDotted module).isEmpty ∨ a.sibling = b.sibling)) ∧
    ∀ (record : ImportRecord) (other : String),
      (record.absolute module).absolute other = record.absolute module ∧
      record.absolute module =
        { record with source := (record.absolute module).source, sibling := false } := by
  refine ⟨⟨fun kept => ?_, fun clear identity => ?_⟩, fun a b same => ?_, fun record other => ?_⟩
  · by_cases below : (ModulePath.ofDotted module).isEmpty
    · exact Or.inl below
    · refine Or.inr fun mistakable => ?_
      obtain ⟨identity, needed, lost⟩ :=
        exists_needsIdentity_not_mem mistakable (by simpa using below)
      exact lost ((kept identity).2 needed)
  · rw [needsIdentity_iff]
    refine Sorted.mem_map_ofList fun a first b second same => ?_
    rw [ImportRecord.identity_absolute_eq_iff (ImportRecord.order_eq_iff_identity.1 same)]
    exact clear.imp_right fun clear => sibling_eq_of_order_eq clear first second same
  · rw [ImportRecord.order_eq_iff_identity,
      ImportRecord.identity_absolute_eq_iff (ImportRecord.order_eq_iff_identity.1 same)]
  · exact ⟨record.absolute_absolute module other, record.absolute_eq module⟩

def foo (path : String) : ExternalType :=
  { module := path, name := "FooTypeDef" }

def fetching (path : String) : ClassOutline where
  name := "S3Client"
  methods :=
    [{ name := "get_foo", returnType := .ref "FooTypeDef" },
     { name := "get_other", returnType := .external (foo path) }]

theorem mem_types_fetching {path : String} {leaf : TypeExpr} :
    leaf ∈ (fetching path).types ↔ leaf = .ref "FooTypeDef" ∨ leaf = .external (foo path) := by
  simp [types, TypeExpr.mem_atomsOf, TypeExpr.mem_atoms, usedTypes, fetching,
    Callable.annotations, TypeExpr.leaves]

/-- The module of a type may end like that of the definitions. -/
theorem fetching_identities :
    (∀ identity, identity ∈ (fetching "other.type_defs").identities "stubs_s3" ↔
      (fetching "other.type_defs").NeedsIdentity "stubs_s3" identity) ∧
    ((foo "type_defs").record.absolute "stubs_s3").order
      ((ImportRecord.named "type_defs" "FooTypeDef").absolute "stubs_s3") = .eq := by
  refine ⟨(identities_iff _ _).1.2 (Or.inr ?_), ?_⟩
  · rintro ⟨external, listed, _, path⟩
    rcases mem_types_fetching.1 listed with same | same
    · cases same
    · cases same
      exact absurd path (by decide)
  · exact ((identities_iff (fetching "type_defs") _).2.1 _ _ (by decide)).2 (Or.inr rfl)

/-- Where a module is called like that of the definitions, the import from it is lost. -/
theorem fetching_losesImport :
    (foo "type_defs").record.order (.ofSibling .typeDefs "FooTypeDef") = .eq ∧
    ((foo "type_defs").record.absolute "stubs_s3").order
      ((ImportRecord.ofSibling .typeDefs "FooTypeDef").absolute "stubs_s3") ≠ .eq ∧
    (fetching "type_defs").NeedsIdentity "stubs_s3" (⟨["type_defs"]⟩, some "FooTypeDef") ∧
    (⟨["type_defs"]⟩, some "FooTypeDef") ∉ (fetching "type_defs").identities "stubs_s3" := by
  refine ⟨by decide, by decide, ?_, by decide⟩
  exact ⟨.external (foo "type_defs"), mem_types_fetching.2 (Or.inr rfl), _, rfl, by decide, by decide⟩

end ClassOutline

end ServiceStubs
