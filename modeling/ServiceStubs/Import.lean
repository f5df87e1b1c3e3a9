import ServiceStubs.Sorted
import ServiceStubs.Text
/-!
The modules a stub package can have beside its entry point. Each is named in
the package, in the file names, and in the imports between siblings.
-/

namespace ServiceStubs

inductive PackageModule
  | client
  | serviceResource
  | paginator
  | waiter
  | typeDefs
  | dataclassDefs
deriving DecidableEq, Repr, Inhabited

namespace PackageModule

def all : List PackageModule :=
  [client, serviceResource, paginator, waiter, typeDefs, dataclassDefs]

def name : PackageModule → String
  | client => "client"
  | serviceResource => "service_resource"
  | paginator => "paginator"
  | waiter => "waiter"
  | typeDefs => "type_defs"
  | dataclassDefs => "dataclass_defs"

def stubFileName (module : PackageModule) : String :=
  module.name ++ ".pyi"

def fileName (module : PackageModule) : String :=
  module.name ++ ".py"

def ofName? (name : String) : Option PackageModule :=
  all.find? (·.name == name)

end PackageModule

/-!
The names of a service.
-/

structure ServiceName where
  name : String
  className : String
  moduleName : String
deriving DecidableEq, Repr, Inhabited

def ServiceName.importName (service : ServiceName) : String :=
  Text.replace "-" "_" service.name

/-!
Dotted module paths such as `botocore.client`. A path is its segments; empty
segments are never part of it, so `a..b` and `a.b` are the same path. Paths are
compared segment by segment.
-/

structure ModulePath where
  segments : List String
deriving DecidableEq, Repr, Inhabited

namespace ModulePath

def ofSegments (segments : List String) : ModulePath :=
  ⟨segments.filter (· ≠ "")⟩

def ofDotted (text : String) : ModulePath :=
  ofSegments ((Text.split '.' text.toList).map String.ofList)

def text (path : ModulePath) : String :=
  String.intercalate "." path.segments

def package (path : ModulePath) : String :=
  path.segments.headD ""

def isEmpty (path : ModulePath) : Bool :=
  path.segments.isEmpty

def join (path other : ModulePath) : ModulePath :=
  ⟨path.segments ++ other.segments⟩

def builtinsName : String := "builtins"

def isBuiltins (path : ModulePath) : Bool :=
  path.package == builtinsName

instance : Ord ModulePath :=
  ⟨fun a b => compare a.segments b.segments⟩

end ModulePath

/-!
One import of a generated file. A record without a name imports the module
itself. Two records are the same import when source and name agree: local name,
version gate and fallback are how it is spelled, and whether it is a sibling is
how its source is to be read.
-/

structure Version where
  major : UInt8
  minor : UInt8
deriving DecidableEq, Repr, Inhabited

def Version.order (a b : Version) : Ordering :=
  (compare a.major b.major).then (compare a.minor b.minor)

instance : Ord Version :=
  ⟨Version.order⟩

structure ImportRecord where
  source : ModulePath
  name : Option String
  localName : Option String := none
  minVersion : Option Version := none
  fallback : Option ImportRecord := none
  -- The source names a module of the same package.
  sibling : Bool := false
deriving Repr, Inhabited

namespace ImportRecord

def ofModule (module : String) : ImportRecord :=
  { source := .ofDotted module, name := none }

def named (module name : String) : ImportRecord :=
  { source := .ofDotted module, name := some name }

def ofSibling (module : PackageModule) (name : String) : ImportRecord :=
  { source := .ofDotted module.name, name := some name, sibling := true }

def gated (record : ImportRecord) (version : Version) (fallback : ImportRecord) : ImportRecord :=
  { record with minVersion := some version, fallback := some fallback }

/-- The order of imports: by source, then by name, the whole module first. -/
def order (a b : ImportRecord) : Ordering :=
  (compare a.source b.source).then (compare a.name b.name)

def sameImport (a b : ImportRecord) : Bool :=
  a.source == b.source && a.name == b.name

def isBuiltins (record : ImportRecord) : Bool :=
  record.source.isBuiltins

def isTypeDefs (record : ImportRecord) : Bool :=
  record.sibling && record.source.package == PackageModule.typeDefs.name

def needsVersionCheck (record : ImportRecord) : Bool :=
  record.fallback.isSome

/-- The record as a file outside the package spells it: a sibling's source is
put below `module`, any other record stays as it is. -/
def absolute (record : ImportRecord) (module : String) : ImportRecord :=
  if record.sibling then
    { record with source := (ModulePath.ofDotted module).join record.source, sibling := false }
  else record

def statement (record : ImportRecord) : String :=
  let source := if record.sibling then "." ++ record.source.text else record.source.text
  let plain :=
    match record.name with
    | some name => "from " ++ source ++ " import " ++ name
    | none => "import " ++ source
  match record.localName with
  | some name => plain ++ " as " ++ name
  | none => plain

/-- The import as a file holds it: a gated record with a fallback asks for the
interpreter's version. -/
def render (record : ImportRecord) : String :=
  match record.minVersion, record.fallback with
  | some version, some fallback =>
      "if sys.version_info >= (" ++ toString version.major.toNat ++ ", "
        ++ toString version.minor.toNat ++ "):\n    " ++ record.statement
        ++ "\nelse:\n    " ++ fallback.statement
  | _, _ => record.statement

end ImportRecord

/-!
The imports of one generated file, each once and in order.
-/

structure ImportSet where
  records : List ImportRecord := []
deriving Inhabited

namespace ImportSet

/-- Adds a record; it takes the place of the one with the same source and name. -/
def insert (set : ImportSet) (record : ImportRecord) : ImportSet :=
  ⟨Sorted.insert ImportRecord.order record set.records⟩

def insertAll (set : ImportSet) (records : List ImportRecord) : ImportSet :=
  records.foldl insert set

def ofList (records : List ImportRecord) : ImportSet :=
  insertAll {} records

def versionCheck : ImportRecord :=
  .ofModule "sys"

def addVersionCheck (set : ImportSet) : ImportSet :=
  set.insert versionCheck

/-- Adds what a component of the package at `module` needs. Names of the
interpreter need no import; a gated record needs the version check as well,
while its fallback stands in its own text. -/
def addRequired (set : ImportSet) (record : ImportRecord) (module : String) : ImportSet :=
  if record.isBuiltins then set
  else
    -- The fallback is not added: it is part of the record's own text.
    let checked := if record.needsVersionCheck then set.addVersionCheck else set
    checked.insert (record.absolute module)

def addChildType (set : ImportSet) (record : ImportRecord) (module : String) : ImportSet :=
  if record.isTypeDefs then set else set.addRequired record module

def contains (set : ImportSet) (record : ImportRecord) : Bool :=
  set.records.any fun known => known.order record == .eq

end ImportSet

end ServiceStubs
