import Mathlib.Data.List.Permutation
import ServiceStubs.Generate
import ServiceStubs.Manifest
import ServiceStubs.Output
import ServiceStubs.Proofs.InStep
import ServiceStubs.Proofs.Registry
/-!
What the output of a package depends on. A registry is only asked while its
package is flattened: the types, the imports and the text of every file come
from the components and the definitions. So two packages that differ in their
registries have the same output as soon as flattening comes to the same.
-/

namespace ServiceStubs.Package

/-- Whatever is made from the two packages is the same, up to the contents of their files. -/
structure SameOutput (left right : Package) : Prop where
  typeDefs : left.typeDefs = right.typeDefs
  presentation : left.presentation = right.presentation
  types : left.types = right.types
  imports : ∀ module, left.imports module = right.imports module
  exportImports : left.exportImports = right.exportImports
  text : ∀ template : Template, template.render left = template.render right
  files : ∀ (formatter : Formatter) (destination : Destination),
    (Producer.mk .ofTemplates formatter).render left destination =
      (Producer.mk .ofTemplates formatter).render right destination

theorem importSet_withRegistry (package : Package) (registry : Registry) (module : PackageModule) :
    ({ package with registry } : Package).importSet module = package.importSet module := by
  cases module <;> rfl

theorem render_withRegistry (package : Package) (registry : Registry) (template : Template) :
    template.render { package with registry } = template.render package := by
  cases template with
  | module name => cases name <;> rfl
  | _ => rfl

theorem renderFiles_withRegistry (package : Package) (registry : Registry) (formatter : Formatter)
    (planned : List PlannedFile) :
    (Producer.mk .ofTemplates formatter).renderFiles { package with registry } planned =
      (Producer.mk .ofTemplates formatter).renderFiles package planned := by
  induction planned with
  | nil => rfl
  | cons file rest ih =>
      have first : (Producer.mk .ofTemplates formatter).renderFile { package with registry } file =
          (Producer.mk .ofTemplates formatter).renderFile package file := by
        simp only [Producer.renderFile, Renderer.ofTemplates, render_withRegistry]
        rfl
      simp only [Producer.renderFiles, first, ih]

theorem sameOutput_withRegistry (package : Package) (registry : Registry) :
    package.SameOutput { package with registry } where
  typeDefs := rfl
  presentation := rfl
  types := rfl
  imports module := by simp only [imports, importSet_withRegistry]
  exportImports := rfl
  text template := (render_withRegistry package registry template).symm
  files formatter destination :=
    (renderFiles_withRegistry package registry formatter (package.plan destination)).symm

theorem flatten_sameOutcome {package : Package} {registry : Registry}
    (same : package.extractTypeDefs = ({ package with registry } : Package).extractTypeDefs) :
    SameOutcome SameOutput package.flatten ({ package with registry } : Package).flatten := by
  unfold flatten
  rw [← same]
  cases package.extractTypeDefs with
  | error unresolved => rfl
  | ok flattened => exact (package.setTypeDefs flattened).sameOutput_withRegistry registry

end ServiceStubs.Package

/-!
What the duplicate policy changes. It only decides whether a descriptor that
differs from an earlier one of its name is a conflict. Where the strict policy
meets no conflict, keeping the first descriptor comes to the same registry, the
same definitions and the same errors.
-/

namespace ServiceStubs

namespace Registry

theorem matching_firstWins (registry : Registry) :
    Matching (fun _ => True) registry (registry.withPolicy .firstWins) where
  service_eq := rfl
  find?_eq _ _ := rfl
  child _ _ _ _ _ _ := trivial
  lenient first duplicate _ := checkDuplicate_of_firstWins rfl first duplicate

end Registry

namespace Flattened

/-- Without a conflict a search comes to the same when the first root wins. -/
theorem ofRoots_withPolicy {registry : Registry} {roots : List Descriptor}
    (agree : ∀ service name, ofRoots registry roots ≠ .error (.nameConflict service name)) :
    ofRoots (registry.withPolicy .firstWins) roots = ofRoots registry roots := by
  cases accepted : Work.acceptAll registry (Sorted.sort Descriptor.order roots) {} with
  | error conflict =>
      obtain ⟨_, name, rfl, _⟩ := Work.conflict_of_acceptAll accepted
      refine absurd ?_ (agree registry.service name)
      simp only [ofRoots, accepted]
  | ok work => exact (ofRoots_eq registry.matching_firstWins accepted (by simp)).symm

end Flattened

namespace Manifest

theorem toPackage_withPolicy {manifest : Manifest} {package : Package} {policy : DuplicatePolicy}
    (assembled : manifest.toPackage policy = .ok package) :
    manifest.toPackage .firstWins =
      .ok { package with registry := package.registry.withPolicy .firstWins } := by
  unfold toPackage at assembled ⊢
  cases registered : Registry.ofDescriptors manifest.service.name policy manifest.shapes with
  | error conflict =>
      rw [registered] at assembled
      cases assembled
  | ok registry =>
      rw [registered] at assembled
      cases assembled
      rw [Registry.ofDescriptors_withPolicy registered]

/-- Letting the first descriptor of a name win extends the strict policy: a manifest that the
strict policy takes gives the same registry and comes to the same output or the same error, and so
does any search that meets no conflict. -/
theorem firstWins_extends_strict :
    (∀ (manifest : Manifest) (package : Package), manifest.toPackage .strict = .ok package →
      ∃ lenient, manifest.toPackage .firstWins = .ok lenient ∧
        lenient.registry.descriptors = package.registry.descriptors ∧
        SameOutcome Package.SameOutput package.flatten lenient.flatten) ∧
    ∀ (registry : Registry) (roots : List Descriptor),
      (∀ service name, Flattened.ofRoots (registry.withPolicy .strict) roots ≠
        .error (.nameConflict service name)) →
      Flattened.ofRoots (registry.withPolicy .firstWins) roots =
        Flattened.ofRoots (registry.withPolicy .strict) roots := by
  constructor
  · intro manifest package assembled
    refine ⟨_, toPackage_withPolicy assembled, rfl, Package.flatten_sameOutcome ?_⟩
    exact Flattened.ofComponents_eq package.registry.matching_firstWins fun _ _ => trivial
  · intro registry roots agree
    exact Flattened.ofRoots_withPolicy agree

def twiceGiven : Manifest where
  service := { name := "s3", className := "S3", moduleName := "stubs_s3" }
  pypiName := "stubs-s3"
  client :=
    { name := "S3Client", aliasName := "Client"
      methods := [{ name := "list", returnType := .ref "ATypeDef" }] }
  shapes :=
    [{ name := "ATypeDef", fields := [{ name := "Next", type := .ref "ATypeDef" }]
       docstring := "An entry." },
     { name := "ATypeDef", fields := [{ name := "Next", type := .ref "ATypeDef" }] }]

theorem twiceGiven_extends :
    let nothing := Registry.empty "s3" .strict
    let kept : Flattened :=
      { descriptors :=
          [{ name := "ATypeDef", fields := [{ name := "Next", type := .selfRef }]
             docstring := "An entry." }]
        presentation := { entries := [("ATypeDef", .direct)] } }
    (∃ package lenient, twiceGiven.toPackage .strict = .ok package ∧
      twiceGiven.toPackage .firstWins = .ok lenient ∧
      lenient.registry.descriptors = package.registry.descriptors ∧
      SameOutcome Package.SameOutput package.flatten lenient.flatten) ∧
    Flattened.ofRoots (nothing.withPolicy .strict) twiceGiven.shapes = .ok kept ∧
    Flattened.ofRoots (nothing.withPolicy .firstWins) twiceGiven.shapes =
      Flattened.ofRoots (nothing.withPolicy .strict) twiceGiven.shapes := by
  intro nothing kept
  obtain ⟨ofManifest, ofSearch⟩ := firstWins_extends_strict
  have succeeds : (twiceGiven.toPackage .strict).toOption.isSome := by cbv
  have found : Flattened.ofRoots (nothing.withPolicy .strict) twiceGiven.shapes = .ok kept := by
    cbv
  refine ⟨?_, found, ofSearch nothing twiceGiven.shapes ?_⟩
  · obtain ⟨package, assembled⟩ := exists_ok_of_isSome succeeds
    obtain ⟨lenient, extended⟩ := ofManifest twiceGiven package assembled
    exact ⟨package, lenient, assembled, extended⟩
  · intro service name conflict
    rw [found] at conflict
    cases conflict

end Manifest

/-!
Which shapes of a manifest count. Its package is built from the components and
from the shapes reached from them. Where no name is given to two shapes, the
order of the shapes, and shapes that nothing reaches, leave no trace in what is
built: not in the definitions, the imports or the files, and not in the error.
-/

theorem Descriptor.find?_of_perm {descriptors others : List Descriptor}
    (distinct : (descriptors.map (·.name)).Nodup) (rearranged : descriptors.Perm others)
    (name : String) :
    descriptors.find? (·.name == name) = others.find? (·.name == name) := by
  have names : (descriptors.map (·.name)).Perm (others.map (·.name)) := rearranged.map _
  by_cases listed : name ∈ descriptors.map (·.name)
  · obtain ⟨descriptor, member, rfl⟩ := List.mem_map.1 listed
    rw [find?_eq_some_of_mem distinct member,
      find?_eq_some_of_mem (names.nodup_iff.1 distinct) (rearranged.mem_iff.1 member)]
  · have absent : name ∉ others.map (·.name) := fun given => listed (names.mem_iff.2 given)
    rw [find?_of_not_mem listed, find?_of_not_mem absent]

/-- Registries of descriptors that are the same under every name reached are matching there. -/
theorem Registry.matching_ofDescriptors {service : String} {policy : DuplicatePolicy}
    {descriptors others : List Descriptor} {registry other : Registry}
    (registered : ofDescriptors service policy descriptors = .ok registry)
    (otherRegistered : ofDescriptors service policy others = .ok other) {start : String → Prop}
    (same : ∀ name, Reached (fun name => descriptors.find? (·.name == name)) start name →
      others.find? (·.name == name) = descriptors.find? (·.name == name)) :
    Matching (Reached (fun name => descriptors.find? (·.name == name)) start) registry other := by
  obtain ⟨serviceName, policyName⟩ := ofDescriptors_settings registered
  obtain ⟨otherService, otherPolicy⟩ := ofDescriptors_settings otherRegistered
  constructor
  · exact serviceName.trans otherService.symm
  · intro name reached
    rw [find?_ofDescriptors registered, find?_ofDescriptors otherRegistered, same name reached]
  · intro name descriptor reached known child below
    rw [find?_ofDescriptors registered] at known
    obtain ⟨given, listed, rfl⟩ := Option.map_eq_some_iff.1 known
    rw [Descriptor.children_resolve] at below
    exact Reached.child reached listed below
  · intro first duplicate dropped
    rw [← dropped]
    simp only [checkDuplicate, serviceName, policyName, otherService, otherPolicy]

namespace Manifest

def components (manifest : Manifest) : List ClassOutline :=
  manifest.client.outline :: (manifest.serviceResource.map (·.outline)).toList
    ++ manifest.waiters.map (·.outline) ++ manifest.paginators.map (·.outline)

def shape? (manifest : Manifest) (name : String) : Option Descriptor :=
  manifest.shapes.find? (·.name == name)

/-- The name is a reference of a component, or follows from these through the shapes. -/
def Reaches (manifest : Manifest) (name : String) : Prop :=
  Reached manifest.shape? (Flattened.Exposes manifest.components) name

variable {manifest : Manifest} {shapes extra : List Descriptor}

theorem build_sameOutcome (policy : DuplicatePolicy)
    (distinct : (manifest.shapes.map (·.name)).Nodup) (otherDistinct : (shapes.map (·.name)).Nodup)
    (same : ∀ name, manifest.Reaches name →
      ({ manifest with shapes } : Manifest).shape? name = manifest.shape? name) :
    SameOutcome Package.SameOutput (manifest.build policy)
      (({ manifest with shapes } : Manifest).build policy) := by
  obtain ⟨registry, registered⟩ :=
    Registry.ofDescriptors_of_distinct manifest.service.name policy distinct
  obtain ⟨other, otherRegistered⟩ :=
    Registry.ofDescriptors_of_distinct manifest.service.name policy otherDistinct
  have matching := Registry.matching_ofDescriptors registered otherRegistered same
  simp only [build, toPackage, registered, otherRegistered]
  apply Package.flatten_sameOutcome
  exact Flattened.ofComponents_eq matching fun _ exposed => Reached.start exposed

theorem shape?_of_rearranged (otherDistinct : (shapes.map (·.name)).Nodup)
    (rearranged : shapes.Perm (manifest.shapes ++ extra))
    (unreached : ∀ shape ∈ extra, ¬ manifest.Reaches shape.name) {name : String}
    (reached : manifest.Reaches name) :
    ({ manifest with shapes } : Manifest).shape? name = manifest.shape? name := by
  have absent : name ∉ extra.map (·.name) := by
    intro listed
    obtain ⟨shape, member, rfl⟩ := List.mem_map.1 listed
    exact unreached shape member reached
  have found := Descriptor.find?_of_perm otherDistinct rearranged name
  rwa [List.find?_append, Descriptor.find?_of_not_mem absent, Option.or_none] at found

/-- Among manifests that give no name to two shapes, what is built depends on the shapes reached
only. It stays the same, the error as well, when the shapes are put in another order and when
shapes are added that are not reached, whatever these refer to. -/
theorem build_of_reached (manifest : Manifest) (policy : DuplicatePolicy)
    (distinct : (manifest.shapes.map (·.name)).Nodup) :
    (∀ shapes : List Descriptor, (shapes.map (·.name)).Nodup →
      (∀ name, manifest.Reaches name →
        ({ manifest with shapes } : Manifest).shape? name = manifest.shape? name) →
      SameOutcome Package.SameOutput (manifest.build policy)
        (({ manifest with shapes } : Manifest).build policy)) ∧
    ∀ shapes extra : List Descriptor, (shapes.map (·.name)).Nodup →
      shapes.Perm (manifest.shapes ++ extra) →
      (∀ shape ∈ extra, ¬ manifest.Reaches shape.name) →
      SameOutcome Package.SameOutput (manifest.build policy)
        (({ manifest with shapes } : Manifest).build policy) := by
  constructor
  · intro shapes otherDistinct same
    exact build_sameOutcome policy distinct otherDistinct same
  · intro shapes extra otherDistinct rearranged unreached
    apply build_sameOutcome policy distinct otherDistinct
    intro name reached
    exact shape?_of_rearranged otherDistinct rearranged unreached reached

def listing : Manifest where
  service := { name := "s3", className := "S3", moduleName := "stubs_s3" }
  pypiName := "stubs-s3"
  client :=
    { name := "S3Client", aliasName := "Client"
      methods := [{ name := "list", returnType := .ref "ATypeDef" }] }
  shapes :=
    [{ name := "ATypeDef", fields := [{ name := "B", type := .listOf (.ref "BTypeDef") }] },
     { name := "BTypeDef", fields := [{ name := "A", type := .ref "ATypeDef" }] }]

def dangling : Descriptor where
  name := "Dangling"
  fields := [{ name := "Nowhere", type := .ref "Nowhere" }]

theorem not_reaches_dangling : ¬ listing.Reaches dangling.name := by
  intro reached
  have exposed : (Flattened.exposed listing.components).map Prod.fst = ["ATypeDef"] := by cbv
  have children : ∀ shape ∈ listing.shapes, ∀ child ∈ shape.children,
      child ∈ ["ATypeDef", "BTypeDef"] := by decide +kernel
  have listed : dangling.name ∈ ["ATypeDef", "BTypeDef"] := by
    refine reached.mem_of_closed (fun name exposes => ?_) fun name shape _ stands => ?_
    · have member := Flattened.mem_exposed.2 exposes
      rw [exposed] at member
      exact List.mem_append_left ["BTypeDef"] member
    · exact children shape (List.mem_of_find?_eq_some stands)
  simp [dangling] at listed

theorem listing_ignoresDangling :
    (∃ package, listing.build .strict = .ok package) ∧
    SameOutcome Package.SameOutput (listing.build .strict)
      (({ listing with shapes := (listing.shapes ++ [dangling]).reverse } : Manifest).build
        .strict) := by
  have succeeds : (listing.build .strict).toOption.isSome := by cbv
  constructor
  · exact exists_ok_of_isSome succeeds
  · refine (build_of_reached listing .strict (by decide)).2 _ [dangling] (by decide)
      (List.reverse_perm _) fun shape member => ?_
    obtain rfl := List.mem_singleton.1 member
    exact not_reaches_dangling

end Manifest

end ServiceStubs
