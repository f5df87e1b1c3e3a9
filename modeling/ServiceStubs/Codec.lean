import ServiceStubs.Component
import ServiceStubs.Config
import ServiceStubs.Document
import ServiceStubs.Manifest
import ServiceStubs.Registry
import ServiceStubs.TypeExpr
/-!
Types as documents: each kind but the self reference is a table with one key,
`builtin`, `external`, `ref`, `container` or `literal`; a self reference is the
text `self_ref`.
-/

namespace ServiceStubs

namespace Version

def encode (version : Version) : Node :=
  .list [.natural version.major.toNat, .natural version.minor.toNat] true

def decode : Decoder Version := fun rules node =>
  match Decoder.pair (.natural 256) (.natural 256) rules node with
  | .error problem => .error problem
  | .ok (major, minor) => .ok ⟨.ofNat major, .ofNat minor⟩

end Version

namespace ExternalType

def encode (type : ExternalType) : Node :=
  .ofFields <|
    [("module", .text type.module), ("name", .text type.name)]
      ++ (match type.minVersion with
          | some version => [("min_version", version.encode)]
          | none => [])
      ++ (match type.fallbackModule with
          | some module => [("fallback_module", .text module)]
          | none => [])

def decode : Decoder ExternalType :=
  .record
    [.needed "module" .text fun value type => { type with module := value },
     .needed "name" .text fun value type => { type with name := value },
     .defaulted "min_version" (.optional Version.decode)
       fun value type => { type with minVersion := value },
     .defaulted "fallback_module" (.optional .text)
       fun value type => { type with fallbackModule := value }]
    { module := "", name := "" }

end ExternalType

namespace TypeExpr

mutual

def encode : TypeExpr → Node
  | builtin name => .ofFields [("builtin", .text name)]
  | external type => .ofFields [("external", type.encode)]
  | ref name => .ofFields [("ref", .text name)]
  | selfRef => .text "self_ref"
  | container outer args =>
      .ofFields [("container",
        .ofFields [("outer", outer.encode), ("args", .list (encodeAll args) true)])]
  | literal values => .ofFields [("literal", .ofList .text values)]

def encodeAll : List TypeExpr → List Node
  | [] => []
  | type :: rest => encode type :: encodeAll rest

end

def decodeName (name : String) : Except DecodeError TypeExpr :=
  if name == "self_ref" then .ok selfRef
  else if ["builtin", "external", "ref", "container", "literal"].contains name then
    .error .invalid
  else .error (.unknownVariant name)

def decodeSimple (rules : Rules) (kind : String) (content : Node) : Except DecodeError TypeExpr :=
  if kind == "builtin" then builtin <$> Decoder.text rules content
  else if kind == "external" then external <$> ExternalType.decode rules content
  else if kind == "ref" then ref <$> Decoder.text rules content
  else if kind == "self_ref" then (fun _ => selfRef) <$> Decoder.unit rules content
  else if kind == "literal" then literal <$> Decoder.list .text rules content
  else .error (.unknownVariant kind)

mutual

def decode (rules : Rules) : Node → Except DecodeError TypeExpr
  | .scalar (.text name) => decodeName name
  | .scalar (.plain name) => decodeName name
  | .table entries whole =>
      match rules.enterVariant with
      | .error problem => .error problem
      | .ok inner => decodeKind inner whole entries
  | _ => .error .invalid

def decodeKind (rules : Rules) (whole : Bool) :
    List (Option String × Node) → Except DecodeError TypeExpr
  | (some kind, content) :: rest =>
      -- Only a container holds types, so only there the reader calls itself.
      let type :=
        if kind == "container" then decodeContainer rules content
        else decodeSimple rules kind content
      match type with
      | .error problem => .error problem
      | .ok type => Decoder.ifWhole (whole && rest.isEmpty) type
  | _ => .error .invalid

def decodeContainer (rules : Rules) : Node → Except DecodeError TypeExpr
  | .table entries whole =>
      match rules.enter with
      | .error problem => .error problem
      | .ok inner => decodeParts inner whole none none entries
  | .list items whole =>
      match rules.enter with
      | .error problem => .error problem
      | .ok inner => decodeItems inner whole items
  | _ => .error .invalid

def decodeParts (rules : Rules) (whole : Bool) (outer : Option ExternalType)
    (args : Option (List TypeExpr)) : List (Option String × Node) → Except DecodeError TypeExpr
  | [] =>
      if !whole then .error .invalid
      else
        match outer with
        | none => .error (.missingField "outer")
        | some type => .ok (container type (args.getD []))
  | (none, _) :: _ => .error .invalid
  | (some key, content) :: rest =>
      if key == "outer" then
        if outer.isSome then .error (.duplicateField key)
        else
          match ExternalType.decode rules content with
          | .error problem => .error problem
          | .ok type => decodeParts rules whole (some type) args rest
      else if key == "args" then
        if args.isSome then .error (.duplicateField key)
        else
          match decodeArgs rules content with
          | .error problem => .error problem
          | .ok types => decodeParts rules whole outer (some types) rest
      else if content.intact then decodeParts rules whole outer args rest
      else .error .invalid

def decodeItems (rules : Rules) (whole : Bool) : List Node → Except DecodeError TypeExpr
  | [] => .error .invalid
  | [outer] =>
      match ExternalType.decode rules outer with
      | .error problem => .error problem
      | .ok type => Decoder.ifWhole whole (container type [])
  | outer :: args :: further =>
      match ExternalType.decode rules outer with
      | .error problem => .error problem
      | .ok type =>
          match decodeArgs rules args with
          | .error problem => .error problem
          | .ok types => Decoder.ifWhole (whole && further.isEmpty) (container type types)

def decodeArgs (rules : Rules) : Node → Except DecodeError (List TypeExpr)
  | .list items whole =>
      match rules.enter with
      | .error problem => .error problem
      | .ok inner =>
          match decodeAll inner items with
          | .error problem => .error problem
          | .ok types => Decoder.ifWhole whole types
  | _ => .error .invalid

def decodeAll (rules : Rules) : List Node → Except DecodeError (List TypeExpr)
  | [] => .ok []
  | node :: rest =>
      match decode rules node with
      | .error problem => .error problem
      | .ok type =>
          match decodeAll rules rest with
          | .error problem => .error problem
          | .ok types => .ok (type :: types)

end

end TypeExpr

/-!
Descriptors, their fields and the duplicate policy as documents. A descriptor
is read as it is written: its references to itself stay as they are.
-/

namespace Field

def encode (field : Field) : Node :=
  .ofFields
    [("name", .text field.name),
     ("type", field.type.encode),
     ("required", .truth field.required)]

def decode : Decoder Field :=
  .record
    [.needed "name" .text fun value field => { field with name := value },
     .needed "type" TypeExpr.decode fun value field => { field with type := value },
     .defaulted "required" .truth fun value field => { field with required := value }]
    { name := "", type := .selfRef }

end Field

namespace Descriptor

def encode (descriptor : Descriptor) : Node :=
  .ofFields
    [("name", .text descriptor.name),
     ("fields", .ofList Field.encode descriptor.fields),
     ("docstring", .text descriptor.docstring)]

def decode : Decoder Descriptor :=
  .record
    [.needed "name" .text fun value descriptor => { descriptor with name := value },
     .defaulted "fields" (.list Field.decode)
       fun value descriptor => { descriptor with fields := value },
     .defaulted "docstring" .text fun value descriptor => { descriptor with docstring := value }]
    { name := "" }

end Descriptor

namespace DuplicatePolicy

def name : DuplicatePolicy → String
  | strict => "strict"
  | firstWins => "first_wins"

def encode (policy : DuplicatePolicy) : Node :=
  .text policy.name

def decode : Decoder DuplicatePolicy :=
  .choice [(strict.name, strict), (firstWins.name, firstWins)]

end DuplicatePolicy

/-!
The components of a service as documents.
-/

namespace Argument

def encode (argument : Argument) : Node :=
  .ofFields <|
    [("name", .text argument.name)]
      ++ (match argument.type with
          | some type => [("type", type.encode)]
          | none => [])
      ++ [("required", .truth argument.required)]

def decode : Decoder Argument :=
  .record
    [.needed "name" .text fun value argument => { argument with name := value },
     .defaulted "type" (.optional TypeExpr.decode)
       fun value argument => { argument with type := value },
     .defaulted "required" .truth fun value argument => { argument with required := value }]
    { name := "" }

end Argument

namespace Callable

def encode (callable : Callable) : Node :=
  .ofFields
    [("name", .text callable.name),
     ("arguments", .ofList Argument.encode callable.arguments),
     ("return_type", callable.returnType.encode),
     ("docstring", .text callable.docstring)]

def decode : Decoder Callable :=
  .record
    [.needed "name" .text fun value callable => { callable with name := value },
     .defaulted "arguments" (.list Argument.decode)
       fun value callable => { callable with arguments := value },
     .needed "return_type" TypeExpr.decode
       fun value callable => { callable with returnType := value },
     .defaulted "docstring" .text fun value callable => { callable with docstring := value }]
    { name := "", returnType := .selfRef }

end Callable

namespace ExceptionsClass

def encode (exceptions : ExceptionsClass) : Node :=
  .ofFields
    [("name", .text exceptions.name),
     ("bases", .ofList ExternalType.encode exceptions.bases),
     ("error_type", exceptions.errorType.encode),
     ("exceptions", .ofList .text exceptions.exceptions)]

def decode : Decoder ExceptionsClass :=
  .record
    [.defaulted "name" .text fun value exceptions => { exceptions with name := value },
     .defaulted "bases" (.list ExternalType.decode)
       fun value exceptions => { exceptions with bases := value },
     .defaulted "error_type" ExternalType.decode
       fun value exceptions => { exceptions with errorType := value },
     .defaulted "exceptions" (.list .text)
       fun value exceptions => { exceptions with exceptions := value }]
    {}

end ExceptionsClass

namespace Client

def encode (client : Client) : Node :=
  .ofFields
    [("name", .text client.name),
     ("alias_name", .text client.aliasName),
     ("methods", .ofList Callable.encode client.methods),
     ("exceptions_class", client.exceptionsClass.encode),
     ("bases", .ofList ExternalType.encode client.bases),
     ("docstring", .text client.docstring)]

def decode : Decoder Client :=
  .record
    [.needed "name" .text fun value client => { client with name := value },
     .needed "alias_name" .text fun value client => { client with aliasName := value },
     .defaulted "methods" (.list Callable.decode)
       fun value client => { client with methods := value },
     .defaulted "exceptions_class" ExceptionsClass.decode
       fun value client => { client with exceptionsClass := value },
     .defaulted "bases" (.list ExternalType.decode)
       fun value client => { client with bases := value },
     .defaulted "docstring" .text fun value client => { client with docstring := value }]
    { name := "", aliasName := "" }

end Client

namespace Resource

def encode (resource : Resource) : Node :=
  .ofFields
    [("name", .text resource.name),
     ("methods", .ofList Callable.encode resource.methods),
     ("bases", .ofList ExternalType.encode resource.bases)]

def decode : Decoder Resource :=
  .record
    [.needed "name" .text fun value resource => { resource with name := value },
     .defaulted "methods" (.list Callable.decode)
       fun value resource => { resource with methods := value },
     .defaulted "bases" (.list ExternalType.decode)
       fun value resource => { resource with bases := value }]
    { name := "" }

end Resource

namespace ServiceResource

def encode (resource : ServiceResource) : Node :=
  .ofFields
    [("name", .text resource.name),
     ("alias_name", .text resource.aliasName),
     ("methods", .ofList Callable.encode resource.methods),
     ("sub_resources", .ofList Resource.encode resource.subResources),
     ("bases", .ofList ExternalType.encode resource.bases),
     ("docstring", .text resource.docstring)]

def decode : Decoder ServiceResource :=
  .record
    [.needed "name" .text fun value resource => { resource with name := value },
     .needed "alias_name" .text fun value resource => { resource with aliasName := value },
     .defaulted "methods" (.list Callable.decode)
       fun value resource => { resource with methods := value },
     .defaulted "sub_resources" (.list Resource.decode)
       fun value resource => { resource with subResources := value },
     .defaulted "bases" (.list ExternalType.decode)
       fun value resource => { resource with bases := value },
     .defaulted "docstring" .text fun value resource => { resource with docstring := value }]
    { name := "", aliasName := "" }

end ServiceResource

namespace Paginator

def encode (paginator : Paginator) : Node :=
  .ofFields
    [("name", .text paginator.name),
     ("operation_name", .text paginator.operationName),
     ("methods", .ofList Callable.encode paginator.methods),
     ("bases", .ofList ExternalType.encode paginator.bases)]

def decode : Decoder Paginator :=
  .record
    [.needed "name" .text fun value paginator => { paginator with name := value },
     .needed "operation_name" .text
       fun value paginator => { paginator with operationName := value },
     .defaulted "methods" (.list Callable.decode)
       fun value paginator => { paginator with methods := value },
     .defaulted "bases" (.list ExternalType.decode)
       fun value paginator => { paginator with bases := value }]
    { name := "", operationName := "" }

end Paginator

namespace Waiter

def encode (waiter : Waiter) : Node :=
  .ofFields
    [("name", .text waiter.name),
     ("waiter_name", .text waiter.waiterName),
     ("methods", .ofList Callable.encode waiter.methods),
     ("bases", .ofList ExternalType.encode waiter.bases)]

def decode : Decoder Waiter :=
  .record
    [.needed "name" .text fun value waiter => { waiter with name := value },
     .needed "waiter_name" .text fun value waiter => { waiter with waiterName := value },
     .defaulted "methods" (.list Callable.decode)
       fun value waiter => { waiter with methods := value },
     .defaulted "bases" (.list ExternalType.decode)
       fun value waiter => { waiter with bases := value }]
    { name := "", waiterName := "" }

end Waiter

/-!
Manifests as documents.
-/

namespace ServiceName

def encode (service : ServiceName) : Node :=
  .ofFields
    [("name", .text service.name),
     ("class_name", .text service.className),
     ("module_name", .text service.moduleName)]

def decode : Decoder ServiceName :=
  .record
    [.needed "name" .text fun value service => { service with name := value },
     .needed "class_name" .text fun value service => { service with className := value },
     .needed "module_name" .text fun value service => { service with moduleName := value }]
    default

end ServiceName

namespace Manifest

def encode (manifest : Manifest) : Node :=
  .ofFields
    [("service", manifest.service.encode),
     ("package_name", .ofOption .text manifest.packageName),
     ("pypi_name", .text manifest.pypiName),
     ("version", .text manifest.version),
     ("shapes", .ofList Descriptor.encode manifest.shapes),
     ("client", manifest.client.encode),
     ("service_resource", .ofOption ServiceResource.encode manifest.serviceResource),
     ("paginators", .ofList Paginator.encode manifest.paginators),
     ("waiters", .ofList Waiter.encode manifest.waiters),
     ("helper_functions", .ofList Callable.encode manifest.helperFunctions)]

def decode : Decoder Manifest :=
  .record
    [.needed "service" ServiceName.decode
       fun value manifest => { manifest with service := value },
     .defaulted "package_name" (.optional .text)
       fun value manifest => { manifest with packageName := value },
     .needed "pypi_name" .text fun value manifest => { manifest with pypiName := value },
     .defaulted "version" .text fun value manifest => { manifest with version := value },
     .defaulted "shapes" (.list Descriptor.decode)
       fun value manifest => { manifest with shapes := value },
     .needed "client" Client.decode fun value manifest => { manifest with client := value },
     .defaulted "service_resource" (.optional ServiceResource.decode)
       fun value manifest => { manifest with serviceResource := value },
     .defaulted "paginators" (.list Paginator.decode)
       fun value manifest => { manifest with paginators := value },
     .defaulted "waiters" (.list Waiter.decode)
       fun value manifest => { manifest with waiters := value },
     .defaulted "helper_functions" (.list Callable.decode)
       fun value manifest => { manifest with helperFunctions := value }]
    { service := default, pypiName := "", client := default }

end Manifest

/-!
The settings as documents. Each of them may be left out.
-/

namespace FormatterConfig

def encode (config : FormatterConfig) : Node :=
  .ofFields
    [("format_command", .ofList .text config.formatCommand),
     ("sort_imports_command", .ofList .text config.sortImportsCommand)]

def decode : Decoder FormatterConfig :=
  .record
    [.defaulted "format_command" (.list .text)
       fun value config => { config with formatCommand := value },
     .defaulted "sort_imports_command" (.list .text)
       fun value config => { config with sortImportsCommand := value }]
    {}

end FormatterConfig

namespace Config

def threadBound : Nat := 0x10000000000000000

def encode (config : Config) : Node :=
  .ofFields
    [("duplicate_policy", config.duplicatePolicy.encode),
     ("generate_setup", .truth config.generateSetup),
     ("threads", .ofOption .natural config.threads),
     ("formatter", config.formatter.encode)]

def decode : Decoder Config :=
  .record
    [.defaulted "duplicate_policy" DuplicatePolicy.decode
       fun value config => { config with duplicatePolicy := value },
     .defaulted "generate_setup" .truth
       fun value config => { config with generateSetup := value },
     .defaulted "threads" (.optional (.natural threadBound))
       fun value config => { config with threads := value },
     .defaulted "formatter" FormatterConfig.decode
       fun value config => { config with formatter := value }]
    {}

end Config

end ServiceStubs
