import ServiceStubs.Text
import ServiceStubs.TypeExpr
/-!
Type descriptors: named records whose fields stay in the order given. A
descriptor is resolved when no field refers to the descriptor's own name.
-/

namespace ServiceStubs

structure Field where
  name : String
  type : TypeExpr
  required : Bool := true
deriving DecidableEq, Repr, Inhabited

structure Descriptor where
  name : String
  fields : List Field := []
  docstring : String := ""
deriving DecidableEq, Repr, Inhabited

namespace Field

def reservedWords : List String :=
  ["False", "None", "True", "and", "as", "assert", "async", "await", "break", "class",
   "continue", "def", "del", "elif", "else", "except", "finally", "for", "from", "global",
   "if", "import", "in", "is", "lambda", "nonlocal", "not", "or", "pass", "raise", "return",
   "try", "while", "with", "yield"]

def isReserved (field : Field) : Bool :=
  reservedWords.contains field.name

def closeOver (name : String) (field : Field) : Field :=
  { field with type := field.type.closeOver name }

end Field

namespace Descriptor

def order (a b : Descriptor) : Ordering :=
  compare a.name b.name

instance : Std.TransCmp order :=
  inferInstanceAs (Std.TransCmp (compareOn name))

/-- The descriptor with each reference to itself made a self reference. -/
def resolve (descriptor : Descriptor) : Descriptor :=
  { descriptor with fields := descriptor.fields.map (Field.closeOver descriptor.name) }

def selfReferring (descriptor : Descriptor) : List String :=
  (descriptor.fields.filter (·.type.mentions descriptor.name)).map (·.name)

def IsResolved (descriptor : Descriptor) : Prop :=
  ∀ field ∈ descriptor.fields, descriptor.name ∉ field.type.references

theorem isResolved_resolve (descriptor : Descriptor) : descriptor.resolve.IsResolved := by
  intro field member
  obtain ⟨given, _, rfl⟩ := List.mem_map.1 member
  simp [Field.closeOver, TypeExpr.references_closeOver, resolve]

def ofFields (name : String) (fields : List Field) : Descriptor :=
  resolve { name, fields }

def addField (descriptor : Descriptor) (name : String) (type : TypeExpr) (required : Bool) :
    Descriptor :=
  let field := Field.closeOver descriptor.name { name, type, required }
  { descriptor with fields := descriptor.fields ++ [field] }

def field? (descriptor : Descriptor) (name : String) : Option Field :=
  descriptor.fields.find? (·.name == name)

/-- Two descriptors agree when name and fields do; docstrings may differ. -/
def agrees (a b : Descriptor) : Bool :=
  a.name == b.name && a.fields == b.fields

def childTypes (descriptor : Descriptor) : List TypeExpr :=
  TypeExpr.atomsOf (descriptor.fields.map (·.type))

def children (descriptor : Descriptor) : List String :=
  Sorted.ofList compare <|
    (descriptor.fields.flatMap (·.type.references)).filter (· ≠ descriptor.name)

def requiredFields (descriptor : Descriptor) : List Field :=
  descriptor.fields.filter (·.required)

def optionalFields (descriptor : Descriptor) : List Field :=
  descriptor.fields.filter (!·.required)

def hasRequired (descriptor : Descriptor) : Bool :=
  descriptor.fields.any (·.required)

def hasOptional (descriptor : Descriptor) : Bool :=
  descriptor.fields.any (!·.required)

def hasBoth (descriptor : Descriptor) : Bool :=
  descriptor.hasRequired && descriptor.hasOptional

end Descriptor

/-!
A descriptor as a data class: an attribute for each field, the required ones
first. An attribute whose name is reserved has an underscore at its end; the
field's own name stays in its metadata.
-/

def dataclassName (name : String) : String :=
  Text.replace "TypeDef" "DataClassDef" name

namespace Field

def attributeName (field : Field) : String :=
  if field.isReserved then field.name ++ "_" else field.name

def dataclassAnnotation (table : PresentationTable) (field : Field) : String :=
  field.type.renderWith table dataclassName

def metadata (field : Field) : String :=
  "metadata=config(field_name=\"" ++ field.name ++ "\")"

def dataclassAttribute (table : PresentationTable) (field : Field) : String :=
  if field.required then
    field.attributeName ++ ": " ++ field.dataclassAnnotation table
      ++ " = field(" ++ field.metadata ++ ")"
  else
    field.attributeName ++ ": Optional[" ++ field.dataclassAnnotation table
      ++ "] = field(default=None, " ++ field.metadata ++ ")"

end Field

namespace Descriptor

/-- The fields in the order of the data class: those with a default come last. -/
def dataclassFields (descriptor : Descriptor) : List Field :=
  descriptor.requiredFields ++ descriptor.optionalFields

def dataclassBody (table : PresentationTable) (descriptor : Descriptor) : List String :=
  (if descriptor.docstring.isEmpty then [] else [Text.docstringBlock descriptor.docstring])
    ++ (if descriptor.dataclassFields.isEmpty then ["    pass"]
        else descriptor.dataclassFields.map fun field => "    " ++ field.dataclassAttribute table)

def dataclass (table : PresentationTable) (descriptor : Descriptor) : String :=
  String.intercalate "\n" <|
    ["@dataclass", "class " ++ dataclassName descriptor.name ++ "(DataClassJsonMixin):"]
      ++ descriptor.dataclassBody table

end Descriptor

/-!
The definition of a descriptor as a mapping type. A descriptor with required
and optional keys is split into a base for each, which a class combines.
-/

def Field.mappingEntry (table : PresentationTable) (field : Field) : String :=
  Text.quoted field.name ++ ": " ++ field.type.render table

namespace Descriptor

/-- The mapping type `name` with the given keys; a partial one may leave each key out. -/
def mappingType (table : PresentationTable) (name : String) (fields : List Field)
    (isPartial : Bool) : String :=
  name ++ " = TypedDict(\"" ++ name ++ "\", \x7b"
    ++ String.intercalate ", " (fields.map (Field.mappingEntry table))
    ++ (if isPartial then "\x7d, total=False)" else "\x7d)")

def requiredBase (descriptor : Descriptor) : String :=
  "_Required" ++ descriptor.name

def optionalBase (descriptor : Descriptor) : String :=
  "_Optional" ++ descriptor.name

def definition (table : PresentationTable) (descriptor : Descriptor) : String :=
  if descriptor.hasBoth then
    mappingType table descriptor.requiredBase descriptor.requiredFields false ++ "\n"
      ++ mappingType table descriptor.optionalBase descriptor.optionalFields true
      ++ "\n\nclass " ++ descriptor.name ++ "(" ++ descriptor.requiredBase ++ ", "
      ++ descriptor.optionalBase ++ "):\n    pass"
  else
    mappingType table descriptor.name descriptor.fields descriptor.hasOptional

end Descriptor

end ServiceStubs
