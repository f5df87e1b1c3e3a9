import ServiceStubs.Codec
import ServiceStubs.Proofs.Reading
/-!
Every part of a manifest is read back from what is written for it, and from the
lists of its fields in the order declared, where trailing fields that have
their default may be missing. The parts nest, so a manifest is read back from
any mixture of tables and lists.
-/

namespace ServiceStubs

namespace Field

def columns : List (Column Field) :=
  [.needed "name" .text (·.name) (fun value field => { field with name := value }) Node.IsText,
   .needed "type" TypeExpr.decode (·.type) (fun value field => { field with type := value })
     TypeExpr.Stands,
   .defaulted "required" .truth (·.required) (fun value field => { field with required := value })
     Node.IsTruth]

def Stands : Field → Node → Prop :=
  Column.Record columns { name := "", type := .selfRef }

theorem reads : Decoder.Reads decode Stands := by
  apply Column.reads_record
  · decide
  · simp only [columns, List.forall_mem_cons]
    exact ⟨Column.reads_make Decoder.reads_text, Column.reads_make TypeExpr.reads,
      Column.reads_make Decoder.reads_truth, nofun⟩

theorem stands_encode (field : Field) : field.Stands field.encode := by
  have type := field.type.stands_encode
  exact Column.record_of_all (by decide) (.cons rfl (.cons type (.cons rfl .nil))) rfl

end Field

namespace Descriptor

def columns : List (Column Descriptor) :=
  [.needed "name" .text (·.name) (fun value descriptor => { descriptor with name := value })
     Node.IsText,
   .defaulted "fields" (.list Field.decode) (·.fields)
     (fun value descriptor => { descriptor with fields := value }) (Node.IsList Field.Stands),
   .defaulted "docstring" .text (·.docstring)
     (fun value descriptor => { descriptor with docstring := value }) Node.IsText]

def Stands : Descriptor → Node → Prop :=
  Column.Record columns { name := "" }

theorem reads : Decoder.Reads decode Stands := by
  apply Column.reads_record
  · decide
  · simp only [columns, List.forall_mem_cons]
    exact ⟨Column.reads_make Decoder.reads_text,
      Column.reads_make (Decoder.reads_list Field.reads), Column.reads_make Decoder.reads_text,
      nofun⟩

theorem stands_encode (descriptor : Descriptor) : descriptor.Stands descriptor.encode := by
  have fields := Node.isList_of_map Field.stands_encode descriptor.fields
  exact Column.record_of_all (by decide) (.cons rfl (.cons fields (.cons rfl .nil))) rfl

end Descriptor

namespace Argument

def columns : List (Column Argument) :=
  [.needed "name" .text (·.name) (fun value argument => { argument with name := value })
     Node.IsText,
   .defaulted "type" (.optional TypeExpr.decode) (·.type)
     (fun value argument => { argument with type := value }) (Node.IsOption TypeExpr.Stands),
   .defaulted "required" .truth (·.required)
     (fun value argument => { argument with required := value }) Node.IsTruth]

def Stands : Argument → Node → Prop :=
  Column.Record columns { name := "" }

theorem reads : Decoder.Reads decode Stands := by
  apply Column.reads_record
  · decide
  · simp only [columns, List.forall_mem_cons]
    exact ⟨Column.reads_make Decoder.reads_text,
      Column.reads_make (Decoder.reads_optional TypeExpr.reads fun _ _ => TypeExpr.present),
      Column.reads_make Decoder.reads_truth, nofun⟩

theorem stands_encode (argument : Argument) : argument.Stands argument.encode := by
  obtain ⟨name, type, required⟩ := argument
  cases type with
  | none =>
      exact .table (columns.eraseIdx 1) [_, _] List.eraseIdx_subset (by decide) (by simp [columns])
        (.cons rfl (.cons rfl .nil)) rfl
  | some type =>
      have stands := type.stands_encode
      exact Column.record_of_all (by decide) (.cons rfl (.cons stands (.cons rfl .nil))) rfl

end Argument

namespace Callable

def columns : List (Column Callable) :=
  [.needed "name" .text (·.name) (fun value callable => { callable with name := value })
     Node.IsText,
   .defaulted "arguments" (.list Argument.decode) (·.arguments)
     (fun value callable => { callable with arguments := value }) (Node.IsList Argument.Stands),
   .needed "return_type" TypeExpr.decode (·.returnType)
     (fun value callable => { callable with returnType := value }) TypeExpr.Stands,
   .defaulted "docstring" .text (·.docstring)
     (fun value callable => { callable with docstring := value }) Node.IsText]

def Stands : Callable → Node → Prop :=
  Column.Record columns { name := "", returnType := .selfRef }

theorem reads : Decoder.Reads decode Stands := by
  apply Column.reads_record
  · decide
  · simp only [columns, List.forall_mem_cons]
    exact ⟨Column.reads_make Decoder.reads_text,
      Column.reads_make (Decoder.reads_list Argument.reads), Column.reads_make TypeExpr.reads,
      Column.reads_make Decoder.reads_text, nofun⟩

theorem stands_encode (callable : Callable) : callable.Stands callable.encode := by
  have arguments := Node.isList_of_map Argument.stands_encode callable.arguments
  have returnType := callable.returnType.stands_encode
  exact Column.record_of_all (by decide)
    (.cons rfl (.cons arguments (.cons returnType (.cons rfl .nil)))) rfl

end Callable

namespace ExceptionsClass

def columns : List (Column ExceptionsClass) :=
  [.defaulted "name" .text (·.name) (fun value exceptions => { exceptions with name := value })
     Node.IsText,
   .defaulted "bases" (.list ExternalType.decode) (·.bases)
     (fun value exceptions => { exceptions with bases := value })
     (Node.IsList ExternalType.Stands),
   .defaulted "error_type" ExternalType.decode (·.errorType)
     (fun value exceptions => { exceptions with errorType := value }) ExternalType.Stands,
   .defaulted "exceptions" (.list .text) (·.exceptions)
     (fun value exceptions => { exceptions with exceptions := value }) (Node.IsList Node.IsText)]

def Stands : ExceptionsClass → Node → Prop :=
  Column.Record columns {}

theorem reads : Decoder.Reads decode Stands := by
  apply Column.reads_record
  · decide
  · simp only [columns, List.forall_mem_cons]
    exact ⟨Column.reads_make Decoder.reads_text,
      Column.reads_make (Decoder.reads_list ExternalType.reads),
      Column.reads_make ExternalType.reads,
      Column.reads_make (Decoder.reads_list Decoder.reads_text), nofun⟩

theorem stands_encode (exceptions : ExceptionsClass) : exceptions.Stands exceptions.encode := by
  have bases := Node.isList_of_map ExternalType.stands_encode exceptions.bases
  have errorType := exceptions.errorType.stands_encode
  have names := Node.isList_of_map Node.isText_text exceptions.exceptions
  exact Column.record_of_all (by decide)
    (.cons rfl (.cons bases (.cons errorType (.cons names .nil)))) rfl

end ExceptionsClass

section
variable {α : Type}

def Column.methods (get : α → List Callable) (put : List Callable → α → α) : Column α :=
  .defaulted "methods" (.list Callable.decode) get put (Node.IsList Callable.Stands)

def Column.bases (get : α → List ExternalType) (put : List ExternalType → α → α) : Column α :=
  .defaulted "bases" (.list ExternalType.decode) get put (Node.IsList ExternalType.Stands)

theorem Column.reads_methods {get : α → List Callable} {put : List Callable → α → α} :
    (Column.methods get put).Reads :=
  Column.reads_make (Decoder.reads_list Callable.reads)

theorem Column.reads_bases {get : α → List ExternalType} {put : List ExternalType → α → α} :
    (Column.bases get put).Reads :=
  Column.reads_make (Decoder.reads_list ExternalType.reads)

end

namespace Client

def columns : List (Column Client) :=
  [.needed "name" .text (·.name) (fun value client => { client with name := value }) Node.IsText,
   .needed "alias_name" .text (·.aliasName)
     (fun value client => { client with aliasName := value }) Node.IsText,
   .methods (·.methods) fun value client => { client with methods := value },
   .defaulted "exceptions_class" ExceptionsClass.decode (·.exceptionsClass)
     (fun value client => { client with exceptionsClass := value }) ExceptionsClass.Stands,
   .bases (·.bases) fun value client => { client with bases := value },
   .defaulted "docstring" .text (·.docstring)
     (fun value client => { client with docstring := value }) Node.IsText]

def Stands : Client → Node → Prop :=
  Column.Record columns { name := "", aliasName := "" }

theorem reads : Decoder.Reads decode Stands := by
  apply Column.reads_record
  · decide
  · simp only [columns, List.forall_mem_cons]
    exact ⟨Column.reads_make Decoder.reads_text, Column.reads_make Decoder.reads_text,
      Column.reads_methods, Column.reads_make ExceptionsClass.reads, Column.reads_bases,
      Column.reads_make Decoder.reads_text, nofun⟩

theorem stands_encode (client : Client) : client.Stands client.encode := by
  have methods := Node.isList_of_map Callable.stands_encode client.methods
  have exceptions := client.exceptionsClass.stands_encode
  have bases := Node.isList_of_map ExternalType.stands_encode client.bases
  exact Column.record_of_all (by decide) (.cons rfl (.cons rfl (.cons methods
    (.cons exceptions (.cons bases (.cons rfl .nil)))))) rfl

end Client

namespace Resource

def columns : List (Column Resource) :=
  [.needed "name" .text (·.name) (fun value resource => { resource with name := value })
     Node.IsText,
   .methods (·.methods) fun value resource => { resource with methods := value },
   .bases (·.bases) fun value resource => { resource with bases := value }]

def Stands : Resource → Node → Prop :=
  Column.Record columns { name := "" }

theorem reads : Decoder.Reads decode Stands := by
  apply Column.reads_record
  · decide
  · simp only [columns, List.forall_mem_cons]
    exact ⟨Column.reads_make Decoder.reads_text, Column.reads_methods, Column.reads_bases, nofun⟩

theorem stands_encode (resource : Resource) : resource.Stands resource.encode := by
  have methods := Node.isList_of_map Callable.stands_encode resource.methods
  have bases := Node.isList_of_map ExternalType.stands_encode resource.bases
  exact Column.record_of_all (by decide) (.cons rfl (.cons methods (.cons bases .nil))) rfl

end Resource

namespace ServiceResource

def columns : List (Column ServiceResource) :=
  [.needed "name" .text (·.name) (fun value resource => { resource with name := value })
     Node.IsText,
   .needed "alias_name" .text (·.aliasName)
     (fun value resource => { resource with aliasName := value }) Node.IsText,
   .methods (·.methods) fun value resource => { resource with methods := value },
   .defaulted "sub_resources" (.list Resource.decode) (·.subResources)
     (fun value resource => { resource with subResources := value })
     (Node.IsList Resource.Stands),
   .bases (·.bases) fun value resource => { resource with bases := value },
   .defaulted "docstring" .text (·.docstring)
     (fun value resource => { resource with docstring := value }) Node.IsText]

def Stands : ServiceResource → Node → Prop :=
  Column.Record columns { name := "", aliasName := "" }

theorem reads : Decoder.Reads decode Stands := by
  apply Column.reads_record
  · decide
  · simp only [columns, List.forall_mem_cons]
    exact ⟨Column.reads_make Decoder.reads_text, Column.reads_make Decoder.reads_text,
      Column.reads_methods, Column.reads_make (Decoder.reads_list Resource.reads),
      Column.reads_bases, Column.reads_make Decoder.reads_text, nofun⟩

theorem stands_encode (resource : ServiceResource) : resource.Stands resource.encode := by
  have methods := Node.isList_of_map Callable.stands_encode resource.methods
  have subResources := Node.isList_of_map Resource.stands_encode resource.subResources
  have bases := Node.isList_of_map ExternalType.stands_encode resource.bases
  exact Column.record_of_all (by decide) (.cons rfl (.cons rfl (.cons methods
    (.cons subResources (.cons bases (.cons rfl .nil)))))) rfl

/-- A service resource is not written as what stands for the absence of one. -/
theorem present {resource : ServiceResource} {scalar : Scalar}
    (stands : resource.Stands (.scalar scalar)) : Decoder.isAbsent scalar = false :=
  absurd rfl (Column.Record.ne_scalar stands scalar)

end ServiceResource

namespace Paginator

def columns : List (Column Paginator) :=
  [.needed "name" .text (·.name) (fun value paginator => { paginator with name := value })
     Node.IsText,
   .needed "operation_name" .text (·.operationName)
     (fun value paginator => { paginator with operationName := value }) Node.IsText,
   .methods (·.methods) fun value paginator => { paginator with methods := value },
   .bases (·.bases) fun value paginator => { paginator with bases := value }]

def Stands : Paginator → Node → Prop :=
  Column.Record columns { name := "", operationName := "" }

theorem reads : Decoder.Reads decode Stands := by
  apply Column.reads_record
  · decide
  · simp only [columns, List.forall_mem_cons]
    exact ⟨Column.reads_make Decoder.reads_text, Column.reads_make Decoder.reads_text,
      Column.reads_methods, Column.reads_bases, nofun⟩

theorem stands_encode (paginator : Paginator) : paginator.Stands paginator.encode := by
  have methods := Node.isList_of_map Callable.stands_encode paginator.methods
  have bases := Node.isList_of_map ExternalType.stands_encode paginator.bases
  exact Column.record_of_all (by decide)
    (.cons rfl (.cons rfl (.cons methods (.cons bases .nil)))) rfl

end Paginator

namespace Waiter

def columns : List (Column Waiter) :=
  [.needed "name" .text (·.name) (fun value waiter => { waiter with name := value }) Node.IsText,
   .needed "waiter_name" .text (·.waiterName)
     (fun value waiter => { waiter with waiterName := value }) Node.IsText,
   .methods (·.methods) fun value waiter => { waiter with methods := value },
   .bases (·.bases) fun value waiter => { waiter with bases := value }]

def Stands : Waiter → Node → Prop :=
  Column.Record columns { name := "", waiterName := "" }

theorem reads : Decoder.Reads decode Stands := by
  apply Column.reads_record
  · decide
  · simp only [columns, List.forall_mem_cons]
    exact ⟨Column.reads_make Decoder.reads_text, Column.reads_make Decoder.reads_text,
      Column.reads_methods, Column.reads_bases, nofun⟩

theorem stands_encode (waiter : Waiter) : waiter.Stands waiter.encode := by
  have methods := Node.isList_of_map Callable.stands_encode waiter.methods
  have bases := Node.isList_of_map ExternalType.stands_encode waiter.bases
  exact Column.record_of_all (by decide)
    (.cons rfl (.cons rfl (.cons methods (.cons bases .nil)))) rfl

end Waiter

namespace ServiceName

def columns : List (Column ServiceName) :=
  [.needed "name" .text (·.name) (fun value service => { service with name := value })
     Node.IsText,
   .needed "class_name" .text (·.className)
     (fun value service => { service with className := value }) Node.IsText,
   .needed "module_name" .text (·.moduleName)
     (fun value service => { service with moduleName := value }) Node.IsText]

def Stands : ServiceName → Node → Prop :=
  Column.Record columns default

theorem reads : Decoder.Reads decode Stands := by
  apply Column.reads_record
  · decide
  · simp only [columns, List.forall_mem_cons]
    exact ⟨Column.reads_make Decoder.reads_text, Column.reads_make Decoder.reads_text,
      Column.reads_make Decoder.reads_text, nofun⟩

theorem stands_encode (service : ServiceName) : service.Stands service.encode :=
  Column.record_of_all (by decide) (.cons rfl (.cons rfl (.cons rfl .nil))) rfl

end ServiceName

namespace Manifest

def columns : List (Column Manifest) :=
  [.needed "service" ServiceName.decode (·.service)
     (fun value manifest => { manifest with service := value }) ServiceName.Stands,
   .defaulted "package_name" (.optional .text) (·.packageName)
     (fun value manifest => { manifest with packageName := value }) (Node.IsOption Node.IsText),
   .needed "pypi_name" .text (·.pypiName)
     (fun value manifest => { manifest with pypiName := value }) Node.IsText,
   .defaulted "version" .text (·.version)
     (fun value manifest => { manifest with version := value }) Node.IsText,
   .defaulted "shapes" (.list Descriptor.decode) (·.shapes)
     (fun value manifest => { manifest with shapes := value }) (Node.IsList Descriptor.Stands),
   .needed "client" Client.decode (·.client)
     (fun value manifest => { manifest with client := value }) Client.Stands,
   .defaulted "service_resource" (.optional ServiceResource.decode) (·.serviceResource)
     (fun value manifest => { manifest with serviceResource := value })
     (Node.IsOption ServiceResource.Stands),
   .defaulted "paginators" (.list Paginator.decode) (·.paginators)
     (fun value manifest => { manifest with paginators := value })
     (Node.IsList Paginator.Stands),
   .defaulted "waiters" (.list Waiter.decode) (·.waiters)
     (fun value manifest => { manifest with waiters := value }) (Node.IsList Waiter.Stands),
   .defaulted "helper_functions" (.list Callable.decode) (·.helperFunctions)
     (fun value manifest => { manifest with helperFunctions := value })
     (Node.IsList Callable.Stands)]

def Stands : Manifest → Node → Prop :=
  Column.Record columns { service := default, pypiName := "", client := default }

theorem reads : Decoder.Reads decode Stands := by
  apply Column.reads_record
  · decide
  · simp only [columns, List.forall_mem_cons]
    exact ⟨Column.reads_make ServiceName.reads,
      Column.reads_make (Decoder.reads_optional Decoder.reads_text fun _ _ => Node.present_of_isText),
      Column.reads_make Decoder.reads_text, Column.reads_make Decoder.reads_text,
      Column.reads_make (Decoder.reads_list Descriptor.reads), Column.reads_make Client.reads,
      Column.reads_make (Decoder.reads_optional ServiceResource.reads fun _ _ =>
        ServiceResource.present),
      Column.reads_make (Decoder.reads_list Paginator.reads),
      Column.reads_make (Decoder.reads_list Waiter.reads),
      Column.reads_make (Decoder.reads_list Callable.reads), nofun⟩

theorem fill_columns (manifest : Manifest) :
    Column.fill manifest columns { service := default, pypiName := "", client := default } =
      manifest := by
  simp only [Column.fill, columns, List.foldl_cons, List.foldl_nil, Column.needed,
    Column.defaulted, Column.make]

theorem stands_encode (manifest : Manifest) : manifest.Stands manifest.encode := by
  have service := manifest.service.stands_encode
  have packageName := Node.isOption_of_map Node.isText_text manifest.packageName
  have shapes := Node.isList_of_map Descriptor.stands_encode manifest.shapes
  have client := manifest.client.stands_encode
  have resource := Node.isOption_of_map ServiceResource.stands_encode manifest.serviceResource
  have paginators := Node.isList_of_map Paginator.stands_encode manifest.paginators
  have waiters := Node.isList_of_map Waiter.stands_encode manifest.waiters
  have helpers := Node.isList_of_map Callable.stands_encode manifest.helperFunctions
  exact Column.record_of_all (by decide)
    (.cons service (.cons packageName (.cons rfl (.cons rfl (.cons shapes (.cons client
      (.cons resource (.cons paginators (.cons waiters (.cons helpers .nil))))))))))
    manifest.fill_columns

end Manifest

open Decoder in
/-- Every part of a manifest is read back, whatever it holds: from what is written for it, and from
every node that stands for it. Among these are the lists of the fields of each record in the order
declared, at any level, without trailing fields that have their default. -/
theorem manifest_roundTrips :
    RoundTrips TypeExpr.decode TypeExpr.encode TypeExpr.Stands ∧
    RoundTrips ExternalType.decode ExternalType.encode ExternalType.Stands ∧
    RoundTrips Field.decode Field.encode Field.Stands ∧
    RoundTrips Descriptor.decode Descriptor.encode Descriptor.Stands ∧
    RoundTrips Argument.decode Argument.encode Argument.Stands ∧
    RoundTrips Callable.decode Callable.encode Callable.Stands ∧
    RoundTrips Client.decode Client.encode Client.Stands ∧
    RoundTrips ExceptionsClass.decode ExceptionsClass.encode ExceptionsClass.Stands ∧
    RoundTrips Resource.decode Resource.encode Resource.Stands ∧
    RoundTrips ServiceResource.decode ServiceResource.encode ServiceResource.Stands ∧
    RoundTrips Paginator.decode Paginator.encode Paginator.Stands ∧
    RoundTrips Waiter.decode Waiter.encode Waiter.Stands ∧
    RoundTrips ServiceName.decode ServiceName.encode ServiceName.Stands ∧
    RoundTrips Manifest.decode Manifest.encode Manifest.Stands :=
  ⟨roundTrips TypeExpr.reads TypeExpr.stands_encode,
    roundTrips ExternalType.reads ExternalType.stands_encode,
    roundTrips Field.reads Field.stands_encode,
    roundTrips Descriptor.reads Descriptor.stands_encode,
    roundTrips Argument.reads Argument.stands_encode,
    roundTrips Callable.reads Callable.stands_encode,
    roundTrips Client.reads Client.stands_encode,
    roundTrips ExceptionsClass.reads ExceptionsClass.stands_encode,
    roundTrips Resource.reads Resource.stands_encode,
    roundTrips ServiceResource.reads ServiceResource.stands_encode,
    roundTrips Paginator.reads Paginator.stands_encode,
    roundTrips Waiter.reads Waiter.stands_encode,
    roundTrips ServiceName.reads ServiceName.stands_encode,
    roundTrips Manifest.reads Manifest.stands_encode⟩

def nested : Manifest where
  service := { name := "s", className := "S", moduleName := "m" }
  pypiName := "p"
  shapes := [{ name := "Node", fields := [{ name := "Below", type := .listOf .selfRef }] }]
  client := { name := "C", aliasName := "A" }

/-- The service as lists in lists. What is left out at the end of each has its default. -/
def nestedNode : Node :=
  .list
    [.list [.text "s", .text "S", .text "m"] true, .scalar .null, .text "p", .text "",
     .list [.list [.text "Node", .list [.list [.text "Below", .ofFields [("container",
       .list [.list [.text "typing", .text "List"] true, .list [.text "self_ref"] true] true)]]
       true] true] true] true,
     .list [.text "C", .text "A"] true] true

theorem stands_nestedNode : nested.Stands nestedNode := by
  have outer : ExternalType.Stands { module := "typing", name := "List" }
      (.list [.text "typing", .text "List"] true) :=
    .row (ExternalType.columns.take 2) (ExternalType.columns.drop 2) _ rfl
      (by simp [ExternalType.columns]) (.cons rfl (.cons rfl .nil)) rfl
  have type : TypeExpr.Stands (.listOf .selfRef) (.ofFields [("container",
      .list [.list [.text "typing", .text "List"] true, .list [.text "self_ref"] true] true)]) := by
    simp only [TypeExpr.listOf, TypeExpr.typing, TypeExpr.Stands]
    refine ⟨_, [.text "self_ref"], _, outer, ?_, Or.inr (Or.inl rfl), rfl⟩
    simp only [TypeExpr.StandAll, TypeExpr.Stands]
    exact ⟨_, [], rfl, rfl, rfl⟩
  have field : Field.Stands { name := "Below", type := .listOf .selfRef }
      (.list [.text "Below", .ofFields [("container", .list [.list [.text "typing", .text "List"]
        true, .list [.text "self_ref"] true] true)]] true) :=
    .row (Field.columns.take 2) (Field.columns.drop 2) _ rfl (by simp [Field.columns])
      (.cons rfl (.cons type .nil)) rfl
  have shape : Descriptor.Stands
      { name := "Node", fields := [{ name := "Below", type := .listOf .selfRef }] } _ :=
    .row (Descriptor.columns.take 2) (Descriptor.columns.drop 2) _ rfl
      (by simp [Descriptor.columns]) (.cons rfl (.cons ⟨_, .cons field .nil, rfl⟩ .nil)) rfl
  have service : ServiceName.Stands nested.service _ :=
    .row ServiceName.columns [] [.text "s", .text "S", .text "m"] rfl
      (by simp)
      (.cons rfl (.cons rfl (.cons rfl .nil))) rfl
  have client : Client.Stands nested.client _ :=
    .row (Client.columns.take 2) (Client.columns.drop 2) [.text "C", .text "A"] rfl
      (by simp [Client.columns, Column.methods, Column.bases]) (.cons rfl (.cons rfl .nil)) rfl
  exact .row (Manifest.columns.take 6) (Manifest.columns.drop 6) _ rfl (by simp [Manifest.columns])
    (.cons service (.cons rfl (.cons rfl (.cons rfl
      (.cons ⟨_, .cons shape .nil, rfl⟩ (.cons client .nil)))))) rfl

theorem nested_reads :
    nested.Stands nestedNode ∧ Manifest.decode ⟨.json, none⟩ nestedNode = .ok nested ∧
    Manifest.decode ⟨.json, none⟩ nested.encode = .ok nested := by
  obtain ⟨_, _, _, _, _, _, _, _, _, _, _, _, _, whole⟩ := manifest_roundTrips
  exact ⟨stands_nestedNode, whole.standing nested nestedNode stands_nestedNode .json,
    whole.encoded nested .json⟩

end ServiceStubs
