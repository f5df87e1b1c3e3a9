import Mathlib.Data.List.Forall2
import Mathlib.Data.List.Nodup
import ServiceStubs.Proofs.Spelling
/-!
A descriptor is written twice, as a mapping type and as a data class. Both
list every field once, and those of a kind, required or optional, in the order
of the descriptor. The two annotations of a field are made of the same pieces;
the data class only has other names in the place of the references.
-/

namespace ServiceStubs

structure Attribute where
  name : String
  annotation : String
  isOptional : Bool
  key : String

def Attribute.text (entry : Attribute) : String :=
  entry.name ++ ": "
    ++ (if entry.isOptional then "Optional[" ++ entry.annotation ++ "]" else entry.annotation)
    ++ " = field(" ++ (if entry.isOptional then "default=None, " else "")
    ++ "metadata=config(field_name=\"" ++ entry.key ++ "\"))"

namespace Field
variable (table : PresentationTable) (field : Field)

/-- The annotations in mapping type and data class have the same pieces, with the same references
in quotes. -/
structure AnnotatedAlike : Prop where
  mapping : Piece.join id (field.type.pieces table) = field.type.render table
  dataclass : Piece.join dataclassName (field.type.pieces table) = field.dataclassAnnotation table
  references : Piece.references (field.type.pieces table) = field.type.references
  presented : Piece.Follow table (field.type.pieces table)

theorem annotatedAlike : field.AnnotatedAlike table where
  mapping := field.type.join_pieces table id
  dataclass := field.type.join_pieces table dataclassName
  references := field.type.references_pieces table
  presented := field.type.follow_pieces table

/-- The attribute says what the field does, and has its name unless that is a reserved word. -/
structure Declared (entry : Attribute) : Prop where
  unreserved : field.name ∉ reservedWords → entry.name = field.name
  reserved : field.name ∈ reservedWords → entry.name = field.name ++ "_"
  annotation : entry.annotation = Piece.join dataclassName (field.type.pieces table)
  optional : entry.isOptional = true ↔ field.required = false
  key : entry.key = field.name

theorem isReserved_iff {field : Field} : field.isReserved ↔ field.name ∈ reservedWords := by
  rw [isReserved, List.contains_iff_mem]

def declaration : Attribute where
  name := field.attributeName
  annotation := field.dataclassAnnotation table
  isOptional := !field.required
  key := field.name

theorem declared_declaration : field.Declared table (field.declaration table) where
  unreserved free := if_neg fun reserved => free (isReserved_iff.1 reserved)
  reserved member := if_pos (isReserved_iff.2 member)
  annotation := (field.annotatedAlike table).dataclass.symm
  optional := by simp [declaration]
  key := rfl

theorem text_declaration : (field.declaration table).text = field.dataclassAttribute table := by
  have last : "\"))" = "\")" ++ ")" := by decide
  unfold dataclassAttribute metadata Attribute.text
  cases kind : field.required with
  | true =>
      simp only [declaration, kind, Bool.not_true, Bool.false_eq_true, if_false, if_true, last,
        String.append_assoc, String.empty_append]
  | false =>
      have opens : ": " ++ "Optional[" = ": Optional[" := by decide
      have between : "]" ++ " = field(" ++ "default=None, " = "] = field(default=None, " := by decide
      simp only [declaration, kind, Bool.not_false, if_true, Bool.false_eq_true, if_false, last,
        ← opens, ← between, String.append_assoc]

end Field

namespace Descriptor
variable (table : PresentationTable) (descriptor : Descriptor)

/-- Each field is in one of the two lists, once for each time it is given, and stands there in the
order of the descriptor. -/
structure Parts (fields required optional : List Field) : Prop where
  once : (required ++ optional).Perm fields
  requiredOrder : required.Sublist fields
  optionalOrder : optional.Sublist fields
  required : ∀ field ∈ required, field.required = true
  optional : ∀ field ∈ optional, field.required = false

theorem parts_fields : Parts descriptor.fields descriptor.requiredFields
    descriptor.optionalFields where
  once := descriptor.dataclassFields_perm
  requiredOrder := List.filter_sublist
  optionalOrder := List.filter_sublist
  required field member := (List.mem_filter.1 member).2
  optional field member := by simpa using (List.mem_filter.1 member).2

section Definition

def mappingText (name : String) (fields : List Field) (isTotal : Bool) : String :=
  name ++ " = TypedDict(\"" ++ name ++ "\", \x7b"
    ++ String.intercalate ", "
      (fields.map fun field => Text.quoted field.name ++ ": " ++ field.type.render table)
    ++ "\x7d" ++ (if isTotal then "" else ", total=False") ++ ")"

theorem mappingType_eq (name : String) (fields : List Field) (isPartial : Bool) :
    mappingType table name fields isPartial = mappingText table name fields (!isPartial) := by
  have entries : Field.mappingEntry table =
      fun field => Text.quoted field.name ++ ": " ++ field.type.render table := rfl
  cases isPartial <;> simp [mappingType, mappingText, entries, String.append_assoc]

theorem hasRequired_iff : descriptor.hasRequired ↔ descriptor.requiredFields ≠ [] := by
  simp [hasRequired, requiredFields]

theorem hasOptional_iff : descriptor.hasOptional ↔ descriptor.optionalFields ≠ [] := by
  simp [hasOptional, optionalFields]

theorem hasBoth_iff : descriptor.hasBoth ↔
    descriptor.requiredFields ≠ [] ∧ descriptor.optionalFields ≠ [] := by
  rw [hasBoth, Bool.and_eq_true, hasRequired_iff, hasOptional_iff]

end Definition

section Dataclass

def dataclassHeading : List String :=
  ["@dataclass", "class " ++ dataclassName descriptor.name ++ "(DataClassJsonMixin):"]
    ++ if descriptor.docstring.isEmpty then [] else [Text.docstringBlock descriptor.docstring]

def dataclassStatements : List String :=
  if descriptor.dataclassFields = [] then ["    pass"]
  else descriptor.dataclassFields.map fun field => "    " ++ field.dataclassAttribute table

theorem dataclass_eq : descriptor.dataclass table = String.intercalate "\n"
    (descriptor.dataclassHeading ++ descriptor.dataclassStatements table) := by
  rw [dataclass, dataclassBody, dataclassHeading, dataclassStatements, List.append_assoc]
  simp only [List.isEmpty_iff]

theorem dataclassStatements_ne_nil : descriptor.dataclassStatements table ≠ [] := by
  unfold dataclassStatements
  split
  · exact List.cons_ne_nil _ _
  · rename_i some
    simpa using some

end Dataclass

/-- How the two texts list the fields: a mapping type for each kind of fields there is, and a data
class with the required fields first. -/
structure Lists (required optional : List Field) : Prop where
  undivided : required = [] ∨ optional = [] → descriptor.definition table =
    mappingText table descriptor.name descriptor.fields (optional = [])
  divided : required ≠ [] ∧ optional ≠ [] → descriptor.definition table =
    mappingText table ("_Required" ++ descriptor.name) required true ++ "\n"
      ++ mappingText table ("_Optional" ++ descriptor.name) optional false
      ++ "\n\nclass " ++ descriptor.name ++ "(_Required" ++ descriptor.name ++ ", _Optional"
      ++ descriptor.name ++ "):\n    pass"
  dataclass : ∃ entries, List.Forall₂ (Field.Declared table) (required ++ optional) entries ∧
    ∃ statements ≠ [], descriptor.dataclass table =
      String.intercalate "\n" (descriptor.dataclassHeading ++ statements) ∧
    (required ++ optional = [] → statements = ["    pass"]) ∧
    (required ++ optional ≠ [] → statements = entries.map fun entry => "    " ++ entry.text)

theorem lists_fields :
    descriptor.Lists table descriptor.requiredFields descriptor.optionalFields where
  undivided one := by
    have whole : ¬ descriptor.hasBoth := fun both =>
      one.elim (descriptor.hasBoth_iff.1 both).1 (descriptor.hasBoth_iff.1 both).2
    have kind : (!descriptor.hasOptional) = decide (descriptor.optionalFields = []) := by
      rw [Bool.eq_iff_iff, Bool.not_eq_true', Bool.eq_false_iff, Ne, hasOptional_iff,
        Decidable.not_not, decide_eq_true_iff]
    rw [definition, if_neg whole, mappingType_eq, kind]
  divided both := by
    rw [definition, if_pos (descriptor.hasBoth_iff.2 both), mappingType_eq, mappingType_eq,
      requiredBase, optionalBase, ← String.toList_inj]
    simp
  dataclass := by
    refine ⟨descriptor.dataclassFields.map (Field.declaration table), ?_, _,
      descriptor.dataclassStatements_ne_nil table, descriptor.dataclass_eq table, fun none =>
      if_pos none, fun some => (if_neg some).trans ?_⟩
    · exact List.forall₂_map_right_iff.2
        (List.forall₂_same.2 fun field _ => field.declared_declaration table)
    · simp only [List.map_map, Function.comp_def, Field.text_declaration]

/-- The two texts that a descriptor is written as list the same fields, each with the same
annotation but for the names of the references in it. -/
theorem definition_dataclass_agree : ∃ required optional,
    Parts descriptor.fields required optional ∧ descriptor.Lists table required optional ∧
      ∀ field ∈ descriptor.fields, field.AnnotatedAlike table :=
  ⟨_, _, descriptor.parts_fields, descriptor.lists_fields table,
    fun field _ => field.annotatedAlike table⟩

end Descriptor

/-!
The attributes of a data class. There is one for each field and none has a
reserved word for a name, since such a field has an underscore put behind its
own. Whether another field has just that name is not looked at, and it is the
only way in which two fields with different names come to one attribute.
-/

def Declares (line name : String) : Prop :=
  ∃ annotation, line = "    " ++ name ++ ": " ++ annotation

namespace Field

theorem declares_attributeName (table : PresentationTable) (field : Field) :
    Declares ("    " ++ field.dataclassAttribute table) field.attributeName := by
  rw [← text_declaration, Attribute.text, Declares]
  simp only [String.append_assoc]
  exact ⟨_, rfl⟩

variable {field other : Field}

/-- No reserved word is another one with an underscore behind it. -/
theorem underscored_not_mem : ∀ word ∈ reservedWords, word ++ "_" ∉ reservedWords := by
  decide

theorem attributeName_not_mem (field : Field) : field.attributeName ∉ reservedWords := by
  unfold attributeName
  split
  · rename_i reserved
    exact underscored_not_mem field.name (isReserved_iff.1 reserved)
  · rename_i free
    exact fun member => free (isReserved_iff.2 member)

/-- The attribute of the field has the name of the other field, for its own is a reserved word. -/
def TakesNameOf (field other : Field) : Prop :=
  field.isReserved ∧ other.name = field.name ++ "_"

theorem TakesNameOf.not_isReserved (takes : field.TakesNameOf other) : ¬ other.isReserved := by
  rw [isReserved_iff, takes.2]
  exact underscored_not_mem field.name (isReserved_iff.1 takes.1)

theorem TakesNameOf.attributeName_eq (takes : field.TakesNameOf other) :
    field.attributeName = other.attributeName := by
  rw [attributeName, attributeName, if_pos takes.1, if_neg takes.not_isReserved, takes.2]

theorem takesNameOf_of_attributeName_eq (same : field.attributeName = other.attributeName)
    (apart : field.name ≠ other.name) : field.TakesNameOf other ∨ other.TakesNameOf field := by
  unfold attributeName at same
  split at same <;> split at same
  · exact absurd (by simpa using same) apart
  · rename_i reserved _
    exact Or.inl ⟨reserved, same.symm⟩
  · rename_i _ reserved
    exact Or.inr ⟨reserved, same⟩
  · exact absurd same apart

theorem nodup_attributeNames_iff {fields : List Field} (distinct : (fields.map (·.name)).Nodup) :
    (fields.map attributeName).Nodup ↔
      ∀ field ∈ fields, ∀ other ∈ fields, ¬ field.TakesNameOf other := by
  have byName := List.inj_on_of_nodup_map distinct
  rw [List.nodup_map_iff_inj_on distinct.of_map]
  constructor
  · intro byAttribute field member other member' takes
    have same := byAttribute field member other member' takes.attributeName_eq
    exact takes.not_isReserved (same ▸ takes.1)
  · intro free field member other member' same
    by_cases named : field.name = other.name
    · exact byName member member' named
    · rcases takesNameOf_of_attributeName_eq same named with takes | takes
      · exact absurd takes (free field member other member')
      · exact absurd takes (free other member' field member)

theorem takesNameOf_free_iff {fields : List Field} :
    (∀ field ∈ fields, ∀ other ∈ fields, ¬ field.TakesNameOf other) ↔
      ∀ field ∈ fields, field.isReserved → field.name ++ "_" ∉ fields.map (·.name) := by
  simp only [TakesNameOf, List.mem_map, not_and, not_exists]
  exact forall₂_congr fun field _ =>
    ⟨fun free reserved other member named => free other member reserved named,
      fun free other member reserved named => free reserved other member named⟩

end Field

namespace Descriptor
variable {descriptor : Descriptor}

/-- The data class has an attribute for each field, and none of a reserved name. Fields of
different names have attributes of different names except for a reserved name next to the same
one with an underscore. -/
theorem dataclass_attributes_iff (table : PresentationTable)
    (distinct : (descriptor.fields.map (·.name)).Nodup) :
    ∃ (fields : List Field) (lines : List String), fields.Perm descriptor.fields ∧
      descriptor.dataclass table = String.intercalate "\n" (descriptor.dataclassHeading
        ++ if lines = [] then ["    pass"] else lines) ∧
      List.Forall₂ (fun line field => Declares line field.attributeName) lines fields ∧
      (∀ field ∈ fields, field.attributeName ∉ Field.reservedWords) ∧
      ((fields.map Field.attributeName).Nodup ↔ ∀ field ∈ descriptor.fields, field.isReserved →
        field.name ++ "_" ∉ descriptor.fields.map (·.name)) := by
  have listed := descriptor.dataclassFields_perm
  refine ⟨descriptor.dataclassFields,
    descriptor.dataclassFields.map fun field => "    " ++ field.dataclassAttribute table,
    listed, ?_, ?_, fun field _ => field.attributeName_not_mem, ?_⟩
  · rw [dataclass_eq, dataclassStatements]
    simp only [List.map_eq_nil_iff]
  · exact List.forall₂_map_left_iff.2
      (List.forall₂_same.2 fun field _ => field.declares_attributeName table)
  · rw [(listed.map Field.attributeName).nodup_iff, Field.nodup_attributeNames_iff distinct,
      Field.takesNameOf_free_iff]

def reservedShape : Descriptor where
  name := "MailTypeDef"
  fields := [{ name := "from", type := .builtin "str", required := false },
    { name := "class", type := .builtin "str" }, { name := "to_", type := .builtin "str" }]

theorem reserved_attributes :
    (reservedShape.fields.map (·.name)).Nodup ∧
    (∀ field ∈ reservedShape.fields, field.isReserved →
      field.name ++ "_" ∉ reservedShape.fields.map (·.name)) ∧
    ∃ fields : List Field, fields.Perm reservedShape.fields ∧
      (∀ field ∈ fields, field.attributeName ∉ Field.reservedWords) ∧
      (fields.map Field.attributeName).Nodup := by
  have distinct : (reservedShape.fields.map (·.name)).Nodup := by decide
  have free : ∀ field ∈ reservedShape.fields, field.isReserved →
      field.name ++ "_" ∉ reservedShape.fields.map (·.name) := by decide
  obtain ⟨fields, _, listed, _, _, unreserved, apart⟩ := dataclass_attributes_iff {} distinct
  exact ⟨distinct, free, fields, listed, unreserved, apart.2 free⟩

def clashingShape : Descriptor where
  name := "MailTypeDef"
  fields := [{ name := "from", type := .builtin "str" }, { name := "from_", type := .builtin "int" }]

theorem clashing_sharesAttribute :
    (clashingShape.fields.map (·.name)).Nodup ∧
    clashingShape.fields.map Field.attributeName = ["from_", "from_"] ∧
    clashingShape.dataclassStatements {} =
      ["    from_: str = field(metadata=config(field_name=\"from\"))",
        "    from_: int = field(metadata=config(field_name=\"from_\"))"] := by
  decide

end Descriptor

end ServiceStubs
