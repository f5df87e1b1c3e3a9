import ServiceStubs.TypeExpr
/-!
Methods and helper functions. Both have a name, arguments in the order given
and a result; they differ in how the signature lays the arguments out.
-/

namespace ServiceStubs

structure Argument where
  name : String
  type : Option TypeExpr := none
  required : Bool := false
deriving DecidableEq, Repr, Inhabited

def Argument.render (table : PresentationTable) (argument : Argument) : String :=
  argument.name
    ++ (match argument.type with
        | some type => ": " ++ type.render table
        | none => "")
    ++ (if argument.required then "" else " = ...")

structure Callable where
  name : String
  arguments : List Argument := []
  returnType : TypeExpr
  docstring : String := ""
deriving DecidableEq, Repr, Inhabited

namespace Callable

def annotations (callable : Callable) : List TypeExpr :=
  callable.returnType :: callable.arguments.filterMap (·.type)

def types (callable : Callable) : List TypeExpr :=
  TypeExpr.atomsOf callable.annotations

def signature (table : PresentationTable) (callable : Callable) (parameters : List String) :
    String :=
  "def " ++ callable.name ++ "(" ++ String.intercalate ", " parameters ++ ") -> "
    ++ callable.returnType.render table ++ ":"

/-- The parameters of a method: itself, then the arguments, given by name only. -/
def methodParameters (table : PresentationTable) (callable : Callable) : List String :=
  "self" :: (if callable.arguments.isEmpty then [] else ["*"])
    ++ callable.arguments.map (·.render table)

def functionParameters (table : PresentationTable) (callable : Callable) : List String :=
  callable.arguments.map (·.render table)

def methodSignature (table : PresentationTable) (callable : Callable) : String :=
  callable.signature table (callable.methodParameters table)

def functionSignature (table : PresentationTable) (callable : Callable) : String :=
  callable.signature table (callable.functionParameters table)

end Callable

/-!
What every generated class has in common: a name, bases and methods. From these
follow the leaf types the class uses and the imports it needs.
-/

structure ClassOutline where
  name : String
  bases : List ExternalType := []
  methods : List Callable := []
  -- Types the class uses beside those of its bases and methods.
  further : List TypeExpr := []
deriving Inhabited

namespace ClassOutline

def usedTypes (outline : ClassOutline) : List TypeExpr :=
  outline.bases.map .external ++ outline.methods.flatMap (·.annotations) ++ outline.further

def types (outline : ClassOutline) : List TypeExpr :=
  TypeExpr.atomsOf outline.usedTypes

def requiredImports (outline : ClassOutline) : List ImportRecord :=
  Sorted.ofList ImportRecord.order <|
    (outline.types.filterMap TypeExpr.record).filter (!·.isBuiltins)

end ClassOutline

/-!
The classes of a service: the client with its exceptions, the service resource
with its sub-resources, paginators and waiters. What a manifest leaves out has
the default given here.
-/

structure ExceptionsClass where
  name : String := "Exceptions"
  bases : List ExternalType := [{ module := "botocore.errorfactory", name := "BaseClientExceptions" }]
  errorType : ExternalType := { module := "botocore.exceptions", name := "ClientError" }
  exceptions : List String := []
deriving DecidableEq, Repr, Inhabited

structure Client where
  name : String
  aliasName : String
  methods : List Callable := []
  exceptionsClass : ExceptionsClass := {}
  bases : List ExternalType := [{ module := "botocore.client", name := "BaseClient" }]
  docstring : String := ""
deriving DecidableEq, Repr, Inhabited

structure Resource where
  name : String
  methods : List Callable := []
  bases : List ExternalType := [{ module := "boto3.resources.base", name := "ServiceResource" }]
deriving DecidableEq, Repr, Inhabited

structure ServiceResource where
  name : String
  aliasName : String
  methods : List Callable := []
  subResources : List Resource := []
  bases : List ExternalType := [{ module := "boto3.resources.base", name := "ServiceResource" }]
  docstring : String := ""
deriving DecidableEq, Repr, Inhabited

structure Paginator where
  name : String
  operationName : String
  methods : List Callable := []
  bases : List ExternalType := [{ module := "botocore.paginate", name := "Paginator" }]
deriving DecidableEq, Repr, Inhabited

structure Waiter where
  name : String
  waiterName : String
  methods : List Callable := []
  bases : List ExternalType := [{ module := "botocore.waiter", name := "Waiter" }]
deriving DecidableEq, Repr, Inhabited

namespace ExceptionsClass

def attributeType (exceptions : ExceptionsClass) : TypeExpr :=
  .typing "Type" [.external exceptions.errorType]

def outline (exceptions : ExceptionsClass) : ClassOutline :=
  { name := exceptions.name
    bases := exceptions.bases
    further := if exceptions.exceptions.isEmpty then [] else [exceptions.attributeType] }

end ExceptionsClass

def Client.outline (client : Client) : ClassOutline :=
  { name := client.name, bases := client.bases, methods := client.methods }

def Resource.outline (resource : Resource) : ClassOutline :=
  { name := resource.name, bases := resource.bases, methods := resource.methods }

/-- A service resource answers for the types of its sub-resources as well. -/
def ServiceResource.outline (resource : ServiceResource) : ClassOutline :=
  { name := resource.name
    bases := resource.bases
    methods := resource.methods
    further := resource.subResources.flatMap (·.outline.usedTypes) }

def Paginator.outline (paginator : Paginator) : ClassOutline :=
  { name := paginator.name, bases := paginator.bases, methods := paginator.methods }

def Waiter.outline (waiter : Waiter) : ClassOutline :=
  { name := waiter.name, bases := waiter.bases, methods := waiter.methods }

end ServiceStubs
