import ServiceStubs.Proofs.Imports
/-!
Where the version check stands among the imports of a module. An import that
branches on the interpreter's version always has the check beside it. But
imports are in the order of their module paths, so the check comes first only
where no such import is of a path below that of the check, and the paths of
external types are whatever a manifest says.
-/

namespace ServiceStubs

namespace ImportRecord
variable {record : ImportRecord}

def Branches (record : ImportRecord) : Prop :=
  "if sys.version_info >= (".toList <+: record.render.toList

theorem statement_starts (record : ImportRecord) :
    ∃ rest, record.statement.toList = "from ".toList ++ rest ∨
      record.statement.toList = "import ".toList ++ rest := by
  cases named : record.name with
  | none =>
      cases short : record.localName <;>
        exact ⟨_, Or.inr (by simp [statement, named, short, String.toList_append]; rfl)⟩
  | some name =>
      cases short : record.localName <;>
        exact ⟨_, Or.inl (by simp [statement, named, short, String.toList_append]; rfl)⟩

theorem not_branches_statement (record : ImportRecord) :
    ¬ "if sys.version_info >= (".toList <+: record.statement.toList := by
  rintro ⟨tail, same⟩
  obtain ⟨rest, starts | starts⟩ := record.statement_starts
  · rw [starts] at same
    simp at same
  · rw [starts] at same
    simp at same

theorem branches_iff : record.Branches ↔ record.minVersion.isSome ∧ record.fallback.isSome := by
  unfold Branches render
  split
  · rename_i version fallback gate below
    simp [gate, below, String.toList_append]
  · rename_i ungated
    refine iff_of_false record.not_branches_statement fun ⟨gate, below⟩ => ?_
    obtain ⟨version, gate⟩ := Option.isSome_iff_exists.1 gate
    obtain ⟨fallback, below⟩ := Option.isSome_iff_exists.1 below
    exact ungated version fallback gate below

theorem Branches.needsVersionCheck (branches : record.Branches) : record.needsVersionCheck :=
  (branches_iff.1 branches).2

end ImportRecord

namespace ImportSet
variable {set : ImportSet} {imported : ImportRecord}

/-- The version check stands before every import that branches. -/
def ChecksFirst (records : List ImportRecord) : Prop :=
  ∀ before record after, records = before ++ record :: after → record.Branches →
    versionCheck ∈ before

theorem checksFirst_iff_of_increasing {records : List ImportRecord}
    (increasing : Sorted.Increasing ImportRecord.order records)
    (checked : ∀ record ∈ records, record.needsVersionCheck → versionCheck ∈ records) :
    ChecksFirst records ↔
      ∀ record ∈ records, record.Branches → versionCheck.order record = .lt := by
  constructor
  · intro first record member branches
    obtain ⟨before, after, rfl⟩ := List.append_of_mem member
    exact (increasing.mem_before_iff (checked record member branches.needsVersionCheck)).1
      (first before record after rfl branches)
  · rintro above before record after rfl branches
    have member : record ∈ before ++ record :: after := by simp
    exact (increasing.mem_before_iff (checked record member branches.needsVersionCheck)).2
      (above record member branches)

/-- What imports a name follows the version check unless its module path is below. -/
theorem versionCheck_lt_iff {record : ImportRecord} (named : record.name.isSome) :
    versionCheck.order record = .lt ↔ compare record.source versionCheck.source ≠ .lt := by
  obtain ⟨name, named⟩ := Option.isSome_iff_exists.1 named
  have wholeFirst : compare versionCheck.name record.name = .lt := by
    rw [named]
    rfl
  have turned : compare record.source versionCheck.source = .lt ↔
      compare versionCheck.source record.source = .gt := Std.OrientedCmp.gt_iff_lt.symm
  rw [ImportRecord.order, wholeFirst, ne_eq, turned]
  cases compare versionCheck.source record.source <;> simp

theorem mem_addRequired {record : ImportRecord} {module : String}
    (present : imported ∈ (set.addRequired record module).records) :
    imported ∈ set.records ∨ imported = versionCheck ∨
      record.isBuiltins = false ∧ imported = record.absolute module := by
  unfold addRequired at present
  split at present
  · exact Or.inl present
  · rename_i outside
    rcases Sorted.mem_of_mem_insert present with asked | earlier
    · exact Or.inr (Or.inr ⟨by simpa using outside, asked⟩)
    · split at earlier
      · exact (Sorted.mem_of_mem_insert earlier).elim (fun check => Or.inr (Or.inl check)) Or.inl
      · exact Or.inl earlier

end ImportSet

namespace Package
variable {package : Package} {module : PackageModule} {imported : ImportRecord}

theorem mem_addRequired_records {set : ImportSet} {records : List ImportRecord}
    (present : imported ∈ (package.addRequired set records).records) :
    imported ∈ set.records ∨ imported = ImportSet.versionCheck ∨
      ∃ record ∈ records, record.isBuiltins = false ∧
        imported = record.absolute package.service.moduleName := by
  induction records generalizing set with
  | nil => exact Or.inl present
  | cons record rest ih =>
      rcases ih present with earlier | check | ⟨later, member, asked⟩
      · rcases ImportSet.mem_addRequired earlier with before | check | asked
        · exact Or.inl before
        · exact Or.inr (Or.inl check)
        · exact Or.inr (Or.inr ⟨record, List.mem_cons_self, asked⟩)
      · exact Or.inr (Or.inl check)
      · exact Or.inr (Or.inr ⟨later, List.mem_cons_of_mem record member, asked⟩)

theorem typing_of_mem_baseline (fixed : imported ∈ package.baseline module) :
    imported = (ImportRecord.named "typing" "TypedDict").gated ⟨3, 8⟩
        (.named "typing_extensions" "TypedDict") ∨ imported.minVersion = none := by
  have listed := definitions_of_mem_baseline fixed
  simp only [typeDefsBaseline, dataclassDefsBaseline, List.mem_cons, List.not_mem_nil, or_false]
    at listed
  rcases listed with (rfl | rfl) | (rfl | rfl | rfl | rfl | rfl | rfl)
  · exact Or.inr rfl
  · exact Or.inl rfl
  all_goals exact Or.inr rfl

theorem definitionImports_traced {fixed : List ImportRecord}
    (present : imported ∈ (package.definitionImports fixed).records) :
    imported = ImportSet.versionCheck ∨
      imported ∈ (if package.typeDefs.isEmpty then [] else fixed) ∨
      ∃ leaf record, package.Needs .typeDefs leaf record ∧
        imported = record.absolute package.service.moduleName := by
  unfold definitionImports at present
  by_cases nothing : package.typeDefs.isEmpty
  · rw [if_pos nothing] at present
    cases present
  · rw [if_neg nothing, addFieldTypes_eq] at present
    rw [if_neg nothing]
    rcases mem_addRequired_records present with given | check | ⟨record, member, outside, asked⟩
    · exact Or.inr (Or.inl (ImportSet.mem_of_mem_ofList given))
    · exact Or.inl check
    · obtain ⟨leaf, needs⟩ := needs_of_fieldRecord member outside
      exact Or.inr (Or.inr ⟨leaf, record, needs, asked⟩)

/-- Every import of a module is the version check, fixed for the module, or the record of a leaf
type as files outside the package spell it, with the gate and the fallback of that record. -/
theorem imports_traced (present : imported ∈ package.imports module) :
    imported = ImportSet.versionCheck ∨ imported ∈ package.baseline module ∨
      ∃ leaf record, package.Needs module leaf record ∧
        imported = record.absolute package.service.moduleName := by
  by_cases component : module ≠ .typeDefs ∧ module ≠ .dataclassDefs
  · obtain ⟨records, asked, covers⟩ := package.covered_component component
    rw [imports, asked] at present
    rcases mem_addRequired_records present with nowhere | check | ⟨record, member, outside, same⟩
    · cases nowhere
    · exact Or.inl check
    · obtain ⟨leaf, needed⟩ := (covers.sound record member).2 outside
      exact Or.inr (Or.inr ⟨leaf, record, needs_of_component component needed, same⟩)
  · cases module with
    | typeDefs => exact definitionImports_traced present
    | dataclassDefs =>
        rw [needs_dataclassDefs]
        exact definitionImports_traced present
    | client | serviceResource | paginator | waiter => exact absurd (by simp) component

/-- An import that branches is of a name of `typing`, or an external type of the module asks for
it as it is. -/
theorem source_of_branches (present : imported ∈ package.imports module)
    (branches : imported.Branches) : imported.name.isSome ∧
      (imported.source = .ofDotted "typing" ∨ ∃ external : ExternalType,
        package.Needs module (.external external) external.record ∧
        imported = external.record) := by
  have gate := (ImportRecord.branches_iff.1 branches).1
  rcases imports_traced present with rfl | fixed | ⟨leaf, record, needs, rfl⟩
  · cases gate
  · rcases typing_of_mem_baseline fixed with rfl | ungated
    · exact ⟨rfl, Or.inl rfl⟩
    · rw [ungated] at gate
      cases gate
  · have named := TypeExpr.name_isSome_of_record needs.1.spelled
    rw [ImportRecord.absolute_name]
    refine ⟨named, ?_⟩
    cases leaf with
    | external external =>
        cases needs.1.spelled
        rw [ImportRecord.absolute_of_sibling_eq_false external.record_sibling]
        exact Or.inr ⟨external, needs, rfl⟩
    | literal values =>
        cases needs.1.spelled
        exact Or.inl rfl
    | builtin name => cases needs.1.spelled; cases gate
    | ref name => cases needs.1.spelled; cases gate
    | selfRef => cases needs.1.spelled
    | container outer args => cases needs.1.spelled

/-- The version check comes before every import of a module that branches exactly when no
external type that the module imports with its gate is of a module path below that of the check. -/
theorem checksFirst_iff (package : Package) (module : PackageModule) :
    ImportSet.ChecksFirst (package.imports module) ↔
      ∀ external : ExternalType, package.Needs module (.external external) external.record →
        external.record ∈ package.imports module → external.record.Branches →
        compare (ModulePath.ofDotted external.module) ImportSet.versionCheck.source ≠ .lt := by
  have serves := package.serves_importSet module
  have ordered : ImportSet.ChecksFirst (package.imports module) ↔ _ :=
    ImportSet.checksFirst_iff_of_increasing serves.increasing serves.checked
  rw [ordered]
  constructor
  · intro above external _ present branches
    have named := (source_of_branches present branches).1
    have follows := (ImportSet.versionCheck_lt_iff named).1 (above _ present branches)
    rwa [external.record_source] at follows
  · intro apart record present branches
    obtain ⟨named, source⟩ := source_of_branches present branches
    refine (ImportSet.versionCheck_lt_iff named).2 ?_
    rcases source with typing | ⟨external, needs, rfl⟩
    · rw [typing]
      decide
    · rw [external.record_source]
      exact apart external needs present branches

def earlyType : ExternalType :=
  { module := "asyncio", name := "TaskGroup", minVersion := some ⟨3, 11⟩,
    fallbackModule := some "taskgroup" }

def earlyGate : Package where
  name := "stubs_s3"
  pypiName := "stubs-s3"
  version := "1.2.3"
  service := { name := "s3", className := "S3", moduleName := "stubs_s3" }
  client :=
    { name := "S3Client"
      aliasName := "Client"
      methods := [{ name := "gather", returnType := .external earlyType }] }
  registry := Registry.empty "s3" .strict

/-- The client's module branches on the version in its first import. -/
theorem earlyGate_unchecked :
    (∃ later, earlyGate.imports .client = earlyType.record :: later) ∧
    earlyType.record.Branches ∧
    ¬ ∀ module, ImportSet.ChecksFirst (earlyGate.imports module) := by
  have branches : earlyType.record.Branches := ImportRecord.branches_iff.2 ⟨rfl, rfl⟩
  have first : ∃ later, earlyGate.imports .client = earlyType.record :: later := ⟨_, rfl⟩
  refine ⟨first, branches, fun checksFirst => ?_⟩
  obtain ⟨later, listed⟩ := first
  have before := checksFirst .client [] earlyType.record later listed branches
  cases before

end Package

end ServiceStubs
