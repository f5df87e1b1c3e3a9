import ServiceStubs.Proofs.Imports
import ServiceStubs.Proofs.InStep
import ServiceStubs.Proofs.TypeOrder
/-!
What the order of types is for. It is total and tells different types apart, so
a set of types is one list, in whatever order the types were met. The types of
a class, the imports that follow from them and the definitions that they lead
to are therefore the same for every order of its bases, of its methods and of
their arguments.
-/

namespace ServiceStubs

/-- The same items, up to their order and to what is alike of each. -/
def Shuffled {α : Type} (alike : α → α → Prop) (xs ys : List α) : Prop :=
  ∃ zs, List.Forall₂ alike xs zs ∧ zs.Perm ys

section
variable {α β : Type} {alike : α → α → Prop} {f : α → List β} {xs ys : List α}

theorem flatMap_eq_of_forall₂ (all : List.Forall₂ alike xs ys)
    (each : ∀ x y, alike x y → f x = f y) : xs.flatMap f = ys.flatMap f := by
  induction all with
  | nil => rfl
  | cons first _ ih => rw [List.flatMap_cons, List.flatMap_cons, each _ _ first, ih]

theorem flatMap_perm_of_forall₂ (all : List.Forall₂ alike xs ys)
    (each : ∀ x y, alike x y → (f x).Perm (f y)) : (xs.flatMap f).Perm (ys.flatMap f) := by
  induction all with
  | nil => exact List.Perm.refl _
  | cons first _ ih =>
      rw [List.flatMap_cons, List.flatMap_cons]
      exact (each _ _ first).append ih

theorem Shuffled.flatMap_perm (shuffled : Shuffled alike xs ys)
    (each : ∀ x y, alike x y → (f x).Perm (f y)) : (xs.flatMap f).Perm (ys.flatMap f) := by
  obtain ⟨zs, all, perm⟩ := shuffled
  exact (flatMap_perm_of_forall₂ all each).trans (perm.flatMap_right f)

end

theorem TypeExpr.atomsOf_eq_of_perm {types others : List TypeExpr} (perm : types.Perm others) :
    atomsOf types = atomsOf others := by
  refine Sorted.Increasing.eq_of_mem_iff (Sorted.increasing_ofList _) (Sorted.increasing_ofList _)
    fun leaf => ?_
  rw [atomsOf, atomsOf, Sorted.mem_ofList, Sorted.mem_ofList]
  exact (perm.flatMap_right leaves).mem_iff

def Callable.Rearranged (given other : Callable) : Prop :=
  other = { given with arguments := other.arguments } ∧ given.arguments.Perm other.arguments

theorem Callable.Rearranged.annotations_perm {given other : Callable}
    (rearranged : given.Rearranged other) : given.annotations.Perm other.annotations := by
  obtain ⟨same, perm⟩ := rearranged
  rw [annotations, annotations, same]
  exact (perm.filterMap _).cons _

theorem Callable.Rearranged.types_eq {given other : Callable}
    (rearranged : given.Rearranged other) : given.types = other.types :=
  TypeExpr.atomsOf_eq_of_perm rearranged.annotations_perm

namespace ClassOutline

structure Rearranged (given other : ClassOutline) : Prop where
  name : given.name = other.name
  bases : given.bases.Perm other.bases
  methods : Shuffled Callable.Rearranged given.methods other.methods
  further : given.further.Perm other.further

variable {given other : ClassOutline}

theorem Rearranged.usedTypes_perm (rearranged : given.Rearranged other) :
    given.usedTypes.Perm other.usedTypes := by
  have bases := rearranged.bases.map TypeExpr.external
  have methods := rearranged.methods.flatMap_perm fun _ _ => Callable.Rearranged.annotations_perm
  exact (bases.append methods).append rearranged.further

theorem Rearranged.types_eq (rearranged : given.Rearranged other) : given.types = other.types :=
  TypeExpr.atomsOf_eq_of_perm rearranged.usedTypes_perm

theorem Rearranged.requiredImports_eq (rearranged : given.Rearranged other) :
    given.requiredImports = other.requiredImports := by
  rw [requiredImports, requiredImports, rearranged.types_eq]

end ClassOutline

/-- A service resource answers for its sub-resources, so theirs may be rearranged as well. -/
theorem ServiceResource.outline_rearranged {given other : ServiceResource}
    (name : given.name = other.name) (bases : given.bases.Perm other.bases)
    (methods : Shuffled Callable.Rearranged given.methods other.methods)
    (subResources : Shuffled (fun a b => a.outline.Rearranged b.outline) given.subResources
      other.subResources) : given.outline.Rearranged other.outline where
  name := name
  bases := bases
  methods := methods
  further := subResources.flatMap_perm fun _ _ => ClassOutline.Rearranged.usedTypes_perm

namespace Package

def classesOf (package : Package) : PackageModule → List ClassOutline
  | .client => [package.client.outline, package.client.exceptionsClass.outline]
  | .serviceResource => (package.serviceResource.map (·.outline)).toList
  | .paginator => package.paginators.map (·.outline)
  | .waiter => package.waiters.map (·.outline)
  | .typeDefs | .dataclassDefs => []

structure Rearranged (given other : Package) : Prop where
  classes : ∀ module,
    List.Forall₂ ClassOutline.Rearranged (given.classesOf module) (other.classesOf module)
  helperFunctions :
    List.Forall₂ Callable.Rearranged given.helperFunctions other.helperFunctions
  service : given.service = other.service
  registry : given.registry = other.registry
  typeDefs : given.typeDefs = other.typeDefs

variable {given other : Package}

theorem Rearranged.setTypeDefs (rearranged : given.Rearranged other) (flattened : Flattened) :
    (given.setTypeDefs flattened).Rearranged (other.setTypeDefs flattened) where
  classes := rearranged.classes
  helperFunctions := rearranged.helperFunctions
  service := rearranged.service
  registry := rearranged.registry
  typeDefs := rfl

theorem Rearranged.addRequired_eq (rearranged : given.Rearranged other) :
    given.addRequired = other.addRequired := by
  funext set records
  rw [addRequired, addRequired, rearranged.service]

theorem Rearranged.ofOutlines_eq (rearranged : given.Rearranged other) (module : PackageModule) :
    given.ofOutlines (given.classesOf module) = other.ofOutlines (other.classesOf module) := by
  have records := flatMap_eq_of_forall₂ (rearranged.classes module)
    fun _ _ => ClassOutline.Rearranged.requiredImports_eq
  rw [Package.ofOutlines_eq, Package.ofOutlines_eq, records, rearranged.addRequired_eq]

theorem Rearranged.clientImports_eq (rearranged : given.Rearranged other) :
    given.clientImports = other.clientImports := by
  have classes := flatMap_eq_of_forall₂ (rearranged.classes .client)
    fun _ _ => ClassOutline.Rearranged.requiredImports_eq
  have functions := flatMap_eq_of_forall₂ rearranged.helperFunctions fun _ _ alike =>
    congrArg (List.filterMap TypeExpr.record) alike.types_eq
  rw [Package.clientImports_eq, Package.clientImports_eq, functions, rearranged.addRequired_eq]
  exact congrArg (fun records => other.addRequired {} (records ++ _)) classes

theorem Rearranged.definitionImports_eq (rearranged : given.Rearranged other) :
    given.definitionImports = other.definitionImports := by
  funext baseline
  rw [definitionImports, definitionImports, addFieldTypes, addFieldTypes, rearranged.typeDefs,
    rearranged.service]

theorem Rearranged.imports_eq (rearranged : given.Rearranged other) (module : PackageModule) :
    given.imports module = other.imports module := by
  have same : given.importSet module = other.importSet module := by
    cases module with
    | client => exact rearranged.clientImports_eq
    | serviceResource => exact rearranged.ofOutlines_eq .serviceResource
    | paginator => exact rearranged.ofOutlines_eq .paginator
    | waiter => exact rearranged.ofOutlines_eq .waiter
    | typeDefs => exact congrFun rearranged.definitionImports_eq _
    | dataclassDefs => exact congrFun rearranged.definitionImports_eq _
  rw [imports, imports, same]

theorem Rearranged.components (rearranged : given.Rearranged other) :
    List.Forall₂ ClassOutline.Rearranged given.components other.components := by
  obtain ⟨client, _⟩ := List.forall₂_cons.1 (rearranged.classes .client)
  have resources := rearranged.classes .serviceResource
  have waiters := rearranged.classes .waiter
  have paginators := rearranged.classes .paginator
  exact List.rel_append (List.rel_append (.cons client resources) waiters) paginators

theorem Rearranged.extractTypeDefs_eq (rearranged : given.Rearranged other) :
    given.extractTypeDefs = other.extractTypeDefs := by
  have exposed : Flattened.exposed given.components = Flattened.exposed other.components := by
    unfold Flattened.exposed
    rw [flatMap_eq_of_forall₂ rearranged.components fun _ _ alike => ?_]
    rw [alike.types_eq, alike.name]
  rw [extractTypeDefs, extractTypeDefs, Flattened.ofComponents, Flattened.ofComponents, exposed,
    rearranged.registry]

theorem Rearranged.flatten (rearranged : given.Rearranged other) :
    SameOutcome Rearranged given.flatten other.flatten := by
  unfold Package.flatten
  rw [rearranged.extractTypeDefs_eq]
  cases other.extractTypeDefs with
  | error unresolved => rfl
  | ok flattened => exact rearranged.setTypeDefs flattened

end Package

/-- The order of types is the one by which they precede one another, and it is total: any two
types can be compared, those that go both before and after each other are equal, as are those that
compare equal, and what goes before a second type goes before what that one goes before. So the
types of a class and the imports it needs do not change when its bases, methods and their arguments
are put in another order, nor does, for a package of such classes, any list of imports, the
definitions and the lists of imports once it is flattened, or the error where it cannot be. -/
theorem typeOrder_lawful :
    (∀ a b : TypeExpr, a.order b = .lt ↔ a.Precedes b) ∧
    (∀ a b : TypeExpr, a.order b = .eq ↔ a = b) ∧
    (∀ a b : TypeExpr, (a.order b).isLE ∨ (b.order a).isLE) ∧
    (∀ a b : TypeExpr, (a.order b).isLE → (b.order a).isLE → a = b) ∧
    (∀ a b c : TypeExpr, (a.order b).isLE → (b.order c).isLE → (a.order c).isLE) ∧
    (∀ given other : ClassOutline, given.Rearranged other →
      given.types = other.types ∧ given.requiredImports = other.requiredImports) ∧
    ∀ given other : Package, given.Rearranged other →
      (∀ module, given.imports module = other.imports module) ∧
      SameOutcome
        (fun flat twin => flat.typeDefs = twin.typeDefs ∧
          ∀ module, flat.imports module = twin.imports module)
        given.flatten other.flatten := by
  refine ⟨TypeExpr.order_eq_lt_iff, TypeExpr.order_eq_iff, fun a b => ?_, fun a b before after => ?_,
    fun a b c => Std.TransCmp.isLE_trans, fun given other rearranged => ?_,
    fun given other rearranged => ⟨rearranged.imports_eq, ?_⟩⟩
  · rw [TypeExpr.order_eq_swap b a]
    cases a.order b <;> simp
  · exact (TypeExpr.order_eq_iff a b).1 (Std.OrientedCmp.isLE_antisymm before after)
  · exact ⟨rearranged.types_eq, rearranged.requiredImports_eq⟩
  · exact rearranged.flatten.mono fun flat twin alike => ⟨alike.typeDefs, alike.imports_eq⟩

/-- A package whose client has the given bases and methods, the methods being those of a
sub-resource as well. -/
def arranged (bases : List ExternalType) (methods : List Callable) : Package where
  name := "stubs_s3"
  pypiName := "stubs-s3"
  version := "1.2.3"
  service := { name := "s3", className := "S3", moduleName := "stubs_s3" }
  client := { name := "S3Client", aliasName := "Client", bases, methods }
  serviceResource := some
    { name := "S3Resource", aliasName := "Resource", subResources := [{ name := "Foo", methods }] }
  registry := (Registry.empty "s3" .strict).add
    { name := "FooTypeDef", fields := [{ name := "Name", type := .builtin "str" }] }

def sizedBases : List ExternalType :=
  [{ module := "botocore.client", name := "BaseClient" }, { module := "typing", name := "Sized" }]

def listingArguments : List Argument :=
  [{ name := "key", type := some (.builtin "str"), required := true },
   { name := "limit", type := some (.typing "Optional" [.builtin "int"]) }]

def listing (arguments : List Argument) : Callable :=
  { name := "list_foo", arguments, returnType := .listOf (.ref "FooTypeDef") }

def closing : Callable :=
  { name := "close", returnType := .builtin "None" }

/-- The bases, the methods and the arguments of one of these, all from the last to the first. -/
theorem reversed_sameImports :
    let given := arranged sizedBases [listing listingArguments, closing]
    let other := arranged sizedBases.reverse [closing, listing listingArguments.reverse]
    given.Rearranged other ∧ given.client ≠ other.client ∧
      (∀ module, given.imports module = other.imports module) ∧
      TypeExpr.order (.builtin "str") (.ref "FooTypeDef") = .lt ∧
      TypeExpr.order (.ref "FooTypeDef") (.listOf (.ref "FooTypeDef")) = .lt ∧
      (TypeExpr.order (.builtin "str") (.listOf (.ref "FooTypeDef"))).isLE := by
  intro given other
  have methods : Shuffled Callable.Rearranged given.client.methods other.client.methods := by
    have listings : (listing listingArguments).Rearranged (listing listingArguments.reverse) :=
      ⟨rfl, (List.reverse_perm listingArguments).symm⟩
    have closings : closing.Rearranged closing := ⟨rfl, List.Perm.refl _⟩
    exact ⟨_, .cons listings (.cons closings .nil), List.Perm.swap _ _ _⟩
  have none : Shuffled Callable.Rearranged [] [] := ⟨[], .nil, List.Perm.refl _⟩
  have client : given.client.outline.Rearranged other.client.outline :=
    ⟨rfl, (List.reverse_perm sizedBases).symm, methods, List.Perm.refl _⟩
  have exceptions : given.client.exceptionsClass.outline.Rearranged
      other.client.exceptionsClass.outline :=
    ⟨rfl, List.Perm.refl _, none, List.Perm.refl _⟩
  have rearranged : given.Rearranged other := by
    refine ⟨fun module => ?_, .nil, rfl, rfl, rfl⟩
    cases module with
    | client => exact .cons client (.cons exceptions .nil)
    | serviceResource =>
        have sub : ({ name := "Foo", methods := given.client.methods } : Resource).outline.Rearranged
            ({ name := "Foo", methods := other.client.methods } : Resource).outline :=
          ⟨rfl, List.Perm.refl _, methods, List.Perm.refl _⟩
        exact .cons (ServiceResource.outline_rearranged rfl (List.Perm.refl _) none
          ⟨_, .cons sub .nil, List.Perm.refl _⟩) .nil
    | paginator | waiter | typeDefs | dataclassDefs => exact .nil
  obtain ⟨_, _, _, _, trans, _, same⟩ := typeOrder_lawful
  exact ⟨rearranged, by decide, (same given other rearranged).1, by decide, by decide,
    trans _ (.ref "FooTypeDef") _ (by decide) (by decide)⟩

end ServiceStubs
