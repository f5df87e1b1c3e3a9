import ServiceStubs.Component
import ServiceStubs.Flattened
import ServiceStubs.Import
/-!
The stub package of one service: its components, the descriptors they may refer
to, and, once flattened, the type definitions that follow from them.
-/

namespace ServiceStubs

structure Package where
  name : String
  pypiName : String
  version : String := ""
  service : ServiceName
  client : Client
  serviceResource : Option ServiceResource := none
  waiters : List Waiter := []
  paginators : List Paginator := []
  helperFunctions : List Callable := []
  registry : Registry
  typeDefs : List Descriptor := []
  presentation : PresentationTable := {}

namespace Package

/-- The components whose types decide which definitions the package has: client,
service resource, waiters, paginators. -/
def components (package : Package) : List ClassOutline :=
  package.client.outline :: (package.serviceResource.map (·.outline)).toList
    ++ package.waiters.map (·.outline) ++ package.paginators.map (·.outline)

def extractTypeDefs (package : Package) : Except AssemblyError Flattened :=
  Flattened.ofComponents package.registry package.components

def setTypeDefs (package : Package) (flattened : Flattened) : Package :=
  { package with typeDefs := flattened.descriptors, presentation := flattened.presentation }

def flatten (package : Package) : Except AssemblyError Package :=
  match package.extractTypeDefs with
  | .error unresolved => .error unresolved
  | .ok flattened => .ok (package.setTypeDefs flattened)

def types (package : Package) : List TypeExpr :=
  TypeExpr.atomsOf (package.components.flatMap (·.usedTypes))

def typeDefNames (package : Package) : List String :=
  package.typeDefs.map (·.name)

end Package

/-!
The imports of each generated module: what its component needs, in order and
each once. A module whose component is absent has none.
-/

namespace Package

def addRequired (package : Package) (set : ImportSet) (records : List ImportRecord) : ImportSet :=
  records.foldl (fun found record => found.addRequired record package.service.moduleName) set

def ofOutlines (package : Package) (outlines : List ClassOutline) : ImportSet :=
  outlines.foldl (fun found outline => package.addRequired found outline.requiredImports) {}

def clientImports (package : Package) : ImportSet :=
  package.helperFunctions.foldl
    (fun found function => package.addRequired found (function.types.filterMap TypeExpr.record))
    (package.ofOutlines [package.client.outline, package.client.exceptionsClass.outline])

def serviceResourceImports (package : Package) : ImportSet :=
  package.ofOutlines (package.serviceResource.map (·.outline)).toList

def paginatorImports (package : Package) : ImportSet :=
  package.ofOutlines (package.paginators.map (·.outline))

def waiterImports (package : Package) : ImportSet :=
  package.ofOutlines (package.waiters.map (·.outline))

def addFieldTypes (package : Package) (set : ImportSet) : ImportSet :=
  (package.typeDefs.flatMap fun descriptor => descriptor.childTypes.filterMap TypeExpr.record).foldl
    (fun found record => found.addChildType record package.service.moduleName) set

def typeDefsBaseline : List ImportRecord :=
  [ImportSet.versionCheck,
   (ImportRecord.named "typing" "TypedDict").gated ⟨3, 8⟩
     (.named "typing_extensions" "TypedDict")]

def dataclassDefsBaseline : List ImportRecord :=
  [ImportSet.versionCheck,
   .named "typing" "Optional",
   .named "dataclasses" "dataclass",
   .named "dataclasses" "field",
   .named "dataclasses_json" "DataClassJsonMixin",
   .named "dataclasses_json" "config"]

def definitionImports (package : Package) (baseline : List ImportRecord) : ImportSet :=
  if package.typeDefs.isEmpty then {} else package.addFieldTypes (.ofList baseline)

def importSet (package : Package) : PackageModule → ImportSet
  | .client => package.clientImports
  | .serviceResource => package.serviceResourceImports
  | .paginator => package.paginatorImports
  | .waiter => package.waiterImports
  | .typeDefs => package.definitionImports typeDefsBaseline
  | .dataclassDefs => package.definitionImports dataclassDefsBaseline

def imports (package : Package) (module : PackageModule) : List ImportRecord :=
  (package.importSet module).records

/-!
What the entry point of a package exports: every component, and the short names
of client and service resource.
-/

def exportedNames (package : Package) : List String :=
  Sorted.ofList compare <|
    [package.client.name, package.client.aliasName]
      ++ (package.serviceResource.map fun resource => [resource.name, resource.aliasName]).getD []
      ++ package.waiters.map (·.name) ++ package.paginators.map (·.name)

def componentImport (package : Package) (module : PackageModule) (name : String) : ImportRecord :=
  { source := .ofSegments [package.service.moduleName, module.name], name := some name }

def exportImports (package : Package) : List ImportRecord :=
  (ImportSet.ofList <|
    package.componentImport .client package.client.name
      :: (package.serviceResource.map fun resource =>
            package.componentImport .serviceResource resource.name).toList
      ++ package.waiters.map (fun waiter => package.componentImport .waiter waiter.name)
      ++ package.paginators.map
          (fun paginator => package.componentImport .paginator paginator.name)).records

/-- The short names to bind, each with the name it stands for. A component whose
short name is its name needs none. -/
def aliases (package : Package) : List (String × String) :=
  ((package.client.aliasName, package.client.name)
    :: (package.serviceResource.map fun resource => (resource.aliasName, resource.name)).toList).filter
      fun (short, name) => short ≠ name

end Package

end ServiceStubs
