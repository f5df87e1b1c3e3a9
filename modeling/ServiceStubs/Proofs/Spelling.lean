import ServiceStubs.Descriptor
import ServiceStubs.Proofs.TypeExpr
/-!
The text of a definition in pieces, so that its references can be told from the
rest. The pieces of an annotation make up its text, whatever the references are
renamed to. Their references are those of the type, each as often as it occurs
there, and a reference stands without quotes only where the table presents it
directly.
-/

namespace ServiceStubs

/-- A part of generated text: text that stands for itself, or a reference to a definition, by its
bare name or in quotes. -/
inductive Piece
  | plain (text : String)
  | bare (name : String)
  | quoted (name : String)
deriving DecidableEq, Repr

namespace Piece

def text (rename : String → String) : Piece → String
  | plain text => text
  | bare name => rename name
  | quoted name => "\"" ++ rename name ++ "\""

def reference? : Piece → Option String
  | plain _ => none
  | bare name => some name
  | quoted name => some name

def join (rename : String → String) (pieces : List Piece) : String :=
  String.join (pieces.map (text rename))

def references (pieces : List Piece) : List String :=
  pieces.filterMap reference?

def separated (separator : String) : List (List Piece) → List Piece
  | [] => []
  | [pieces] => pieces
  | pieces :: next :: rest => pieces ++ plain separator :: separated separator (next :: rest)

def presented (table : PresentationTable) (name : String) : Piece :=
  if table.isForwardRef name then quoted name else bare name

section
variable (rename : String → String) (separator : String)

@[simp] theorem join_nil : join rename [] = "" :=
  rfl

@[simp] theorem join_cons (piece : Piece) (pieces : List Piece) :
    join rename (piece :: pieces) = piece.text rename ++ join rename pieces := by
  simp [join]

@[simp] theorem join_append (pieces others : List Piece) :
    join rename (pieces ++ others) = join rename pieces ++ join rename others := by
  simp [join]

@[simp] theorem join_separated (texts : List (List Piece)) :
    join rename (separated separator texts) =
      String.intercalate separator (texts.map (join rename)) := by
  fun_induction separated separator texts with
  | case1 => simp
  | case2 pieces => simp
  | case3 pieces next rest ih => simp [ih, text, String.append_assoc]

@[simp] theorem references_nil : references [] = [] :=
  rfl

@[simp] theorem references_cons (piece : Piece) (pieces : List Piece) :
    references (piece :: pieces) = piece.reference?.toList ++ references pieces := by
  rw [references, List.filterMap_cons]
  cases piece.reference? <;> rfl

@[simp] theorem references_append (pieces others : List Piece) :
    references (pieces ++ others) = references pieces ++ references others := by
  simp [references]

@[simp] theorem references_separated (texts : List (List Piece)) :
    references (separated separator texts) = texts.flatMap references := by
  fun_induction separated separator texts with
  | case1 => rfl
  | case2 pieces => simp
  | case3 pieces next rest ih => simp [ih, reference?]

theorem mem_references_of_bare {name : String} {pieces : List Piece} (member : bare name ∈ pieces) :
    name ∈ references pieces :=
  List.mem_filterMap.2 ⟨bare name, member, rfl⟩

end

section
variable {table : PresentationTable}

@[simp] theorem text_presented (rename : String → String) (name : String) :
    (presented table name).text rename =
      if table.isForwardRef name then "\"" ++ rename name ++ "\"" else rename name := by
  unfold presented
  split <;> rfl

@[simp] theorem reference?_presented (name : String) :
    (presented table name).reference? = some name := by
  unfold presented
  split <;> rfl

/-- Every reference stands as the table presents it. -/
def Follow (table : PresentationTable) (pieces : List Piece) : Prop :=
  ∀ piece ∈ pieces, ∀ name, piece.reference? = some name → piece = presented table name

@[simp] theorem follow_nil : Follow table [] :=
  nofun

@[simp] theorem follow_cons {piece : Piece} {pieces : List Piece} :
    Follow table (piece :: pieces) ↔
      (∀ name, piece.reference? = some name → piece = presented table name) ∧
        Follow table pieces := by
  simp [Follow]

@[simp] theorem follow_append {pieces others : List Piece} :
    Follow table (pieces ++ others) ↔ Follow table pieces ∧ Follow table others := by
  simp only [Follow, List.mem_append, or_imp, forall_and]

@[simp] theorem follow_separated {separator : String} {texts : List (List Piece)} :
    Follow table (separated separator texts) ↔ ∀ pieces ∈ texts, Follow table pieces := by
  fun_induction separated separator texts with
  | case1 => simp
  | case2 pieces => simp
  | case3 pieces next rest ih => simp [ih, reference?]

end

end Piece

namespace TypeExpr
variable (table : PresentationTable) (rename : String → String)

mutual

def pieces (table : PresentationTable) : TypeExpr → List Piece
  | builtin name => [.plain name]
  | external type => [.plain type.name]
  | ref name => [.presented table name]
  | selfRef => [.plain "Dict[str, Any]"]
  | container outer [] => [.plain outer.name]
  | container outer (arg :: args) =>
      [.plain outer.name, .plain "["] ++ pieces table arg ++ piecesRest table args ++ [.plain "]"]
  | literal values =>
      [.plain ("Literal[" ++ String.intercalate ", " (values.map Text.quoted) ++ "]")]

def piecesRest (table : PresentationTable) : List TypeExpr → List Piece
  | [] => []
  | arg :: args => .plain ", " :: pieces table arg ++ piecesRest table args

end

mutual

@[simp] theorem join_pieces :
    ∀ type : TypeExpr, Piece.join rename (type.pieces table) = type.renderWith table rename
  | builtin _ => by simp [pieces, renderWith, Piece.text]
  | external _ => by simp [pieces, renderWith, Piece.text]
  | ref _ => by simp [pieces, renderWith]
  | selfRef => by simp [pieces, renderWith, Piece.text]
  | container _ [] => by simp [pieces, renderWith, Piece.text]
  | container _ (arg :: args) => by
      simp [pieces, renderWith, Piece.text, join_pieces arg, join_piecesRest args,
        String.append_assoc]
  | literal _ => by simp [pieces, renderWith, Piece.text]

theorem join_piecesRest :
    ∀ types : List TypeExpr, Piece.join rename (piecesRest table types) =
      renderRest table rename types
  | [] => rfl
  | arg :: args => by
      simp [piecesRest, renderRest, Piece.text, join_pieces arg, join_piecesRest args,
        String.append_assoc]

end

mutual

@[simp] theorem references_pieces :
    ∀ type : TypeExpr, Piece.references (type.pieces table) = type.references
  | builtin _ => by simp [pieces, references, Piece.reference?]
  | external _ => by simp [pieces, references, Piece.reference?]
  | ref _ => by simp [pieces, references]
  | selfRef => by simp [pieces, references, Piece.reference?]
  | container _ [] => by simp [pieces, references, referencesAll, Piece.reference?]
  | container _ (arg :: args) => by
      simp [pieces, references, referencesAll, Piece.reference?, references_pieces arg,
        references_piecesRest args]
  | literal _ => by simp [pieces, references, Piece.reference?]

theorem references_piecesRest :
    ∀ types : List TypeExpr, Piece.references (piecesRest table types) = referencesAll types
  | [] => rfl
  | arg :: args => by
      simp [piecesRest, referencesAll, Piece.reference?, references_pieces arg,
        references_piecesRest args]

end

mutual

@[simp] theorem follow_pieces : ∀ type : TypeExpr, Piece.Follow table (type.pieces table)
  | builtin _ => by simp [pieces, Piece.reference?]
  | external _ => by simp [pieces, Piece.reference?]
  | ref _ => by simp [pieces]
  | selfRef => by simp [pieces, Piece.reference?]
  | container _ [] => by simp [pieces, Piece.reference?]
  | container _ (arg :: args) => by
      simp [pieces, Piece.reference?, follow_pieces arg, follow_piecesRest args]
  | literal _ => by simp [pieces, Piece.reference?]

theorem follow_piecesRest : ∀ types : List TypeExpr, Piece.Follow table (piecesRest table types)
  | [] => by simp [piecesRest]
  | arg :: args => by
      simp [piecesRest, Piece.reference?, follow_pieces arg, follow_piecesRest args]

end

end TypeExpr

namespace Field
variable (table : PresentationTable) (field : Field)

def mappingPieces : List Piece :=
  .plain (Text.quoted field.name ++ ": ") :: field.type.pieces table

def dataclassPieces : List Piece :=
  if field.required then
    .plain (field.attributeName ++ ": ") :: field.type.pieces table
      ++ [.plain (" = field(" ++ field.metadata ++ ")")]
  else
    .plain (field.attributeName ++ ": Optional[") :: field.type.pieces table
      ++ [.plain ("] = field(default=None, " ++ field.metadata ++ ")")]

@[simp] theorem join_mappingPieces :
    Piece.join id (field.mappingPieces table) = field.mappingEntry table := by
  simp [mappingPieces, mappingEntry, Piece.text, TypeExpr.render]

@[simp] theorem join_dataclassPieces :
    Piece.join dataclassName (field.dataclassPieces table) = field.dataclassAttribute table := by
  unfold dataclassPieces dataclassAttribute
  split <;> simp [Piece.text, dataclassAnnotation, String.append_assoc]

@[simp] theorem references_mappingPieces :
    Piece.references (field.mappingPieces table) = field.type.references := by
  simp [mappingPieces, Piece.reference?]

@[simp] theorem references_dataclassPieces :
    Piece.references (field.dataclassPieces table) = field.type.references := by
  unfold dataclassPieces
  split <;> simp [Piece.reference?]

@[simp] theorem follow_mappingPieces : Piece.Follow table (field.mappingPieces table) := by
  simp [mappingPieces, Piece.reference?]

@[simp] theorem follow_dataclassPieces : Piece.Follow table (field.dataclassPieces table) := by
  unfold dataclassPieces
  split <;> simp [Piece.reference?]

end Field

namespace Descriptor
variable (table : PresentationTable) (descriptor : Descriptor)

def mappingTypePieces (name : String) (fields : List Field) (isPartial : Bool) : List Piece :=
  .plain (name ++ " = TypedDict(\"" ++ name ++ "\", \x7b")
    :: Piece.separated ", " (fields.map (Field.mappingPieces table))
    ++ [.plain (if isPartial then "\x7d, total=False)" else "\x7d)")]

def definitionPieces : List Piece :=
  if descriptor.hasBoth then
    mappingTypePieces table descriptor.requiredBase descriptor.requiredFields false ++ [.plain "\n"]
      ++ mappingTypePieces table descriptor.optionalBase descriptor.optionalFields true
      ++ [.plain ("\n\nclass " ++ descriptor.name ++ "(" ++ descriptor.requiredBase ++ ", "
        ++ descriptor.optionalBase ++ "):\n    pass")]
  else
    mappingTypePieces table descriptor.name descriptor.fields descriptor.hasOptional

def dataclassPieces : List Piece :=
  Piece.separated "\n" <|
    [[.plain "@dataclass"],
     [.plain ("class " ++ dataclassName descriptor.name ++ "(DataClassJsonMixin):")]]
      ++ (if descriptor.docstring.isEmpty then []
          else [[.plain (Text.docstringBlock descriptor.docstring)]])
      ++ (if descriptor.dataclassFields.isEmpty then [[.plain "    pass"]]
          else descriptor.dataclassFields.map fun field =>
            .plain "    " :: field.dataclassPieces table)

theorem join_mappingTypePieces (name : String) (fields : List Field) (isPartial : Bool) :
    Piece.join id (mappingTypePieces table name fields isPartial) =
      mappingType table name fields isPartial := by
  simp [mappingTypePieces, mappingType, Piece.text, String.append_assoc, Function.comp_def]

theorem join_definitionPieces :
    Piece.join id (descriptor.definitionPieces table) = descriptor.definition table := by
  unfold definitionPieces definition
  split <;> simp [join_mappingTypePieces, Piece.text, String.append_assoc]

theorem join_dataclassPieces :
    Piece.join dataclassName (descriptor.dataclassPieces table) = descriptor.dataclass table := by
  unfold dataclassPieces dataclass dataclassBody
  rw [Piece.join_separated]
  split <;> split <;> simp [Piece.text, Function.comp_def]

/-- The fields in the order of the data class are the fields. -/
theorem dataclassFields_perm : descriptor.dataclassFields.Perm descriptor.fields := by
  have split := List.filter_append_perm (fun field : Field => field.required) descriptor.fields
  simpa [dataclassFields, requiredFields, optionalFields] using split

theorem references_mappingTypePieces (name : String) (fields : List Field) (isPartial : Bool) :
    Piece.references (mappingTypePieces table name fields isPartial) =
      fields.flatMap (·.type.references) := by
  simp [mappingTypePieces, Piece.reference?, List.flatMap_map]

theorem references_definitionPieces :
    (Piece.references (descriptor.definitionPieces table)).Perm
      (descriptor.fields.flatMap (·.type.references)) := by
  unfold definitionPieces
  split
  · have perm := descriptor.dataclassFields_perm.flatMap_right (·.type.references)
    simpa [references_mappingTypePieces, Piece.reference?, dataclassFields] using perm
  · rw [references_mappingTypePieces]

theorem references_dataclassPieces :
    (Piece.references (descriptor.dataclassPieces table)).Perm
      (descriptor.fields.flatMap (·.type.references)) := by
  refine List.Perm.trans (List.Perm.of_eq ?_)
    (descriptor.dataclassFields_perm.flatMap_right (·.type.references))
  unfold dataclassPieces
  rw [Piece.references_separated]
  by_cases fieldless : descriptor.dataclassFields.isEmpty
  · rw [if_pos fieldless, List.isEmpty_iff.1 fieldless]
    split <;> simp [Piece.reference?]
  · rw [if_neg fieldless]
    split <;> simp [Piece.reference?, List.flatMap_map]

theorem follow_mappingTypePieces (name : String) (fields : List Field) (isPartial : Bool) :
    Piece.Follow table (mappingTypePieces table name fields isPartial) := by
  simp [mappingTypePieces, Piece.reference?]

theorem follow_definitionPieces : Piece.Follow table (descriptor.definitionPieces table) := by
  unfold definitionPieces
  split <;> simp [follow_mappingTypePieces, Piece.reference?]

theorem follow_dataclassPieces : Piece.Follow table (descriptor.dataclassPieces table) := by
  unfold dataclassPieces
  rw [Piece.follow_separated]
  split <;> split <;> simp [Piece.reference?]

end Descriptor

end ServiceStubs
