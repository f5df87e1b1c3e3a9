import Mathlib.Data.List.Basic
import Mathlib.Data.List.TakeWhile
import ServiceStubs.Component
import ServiceStubs.Proofs.Definitions
import ServiceStubs.Proofs.Spelling
/-!
The parameter lists of signatures. A method takes everything but itself by
name, so its arguments may have defaults in any order. A function takes its
arguments by position, in the order given, and there one that is required must
not come after one that may be left out.
-/

namespace ServiceStubs

inductive Parameter
  | receiver
  | star
  | given (argument : Argument)
deriving DecidableEq

namespace Parameter

def text (table : PresentationTable) : Parameter → String
  | receiver => "self"
  | star => "*"
  | given argument => argument.render table

def hasDefault : Parameter → Bool
  | given argument => !argument.required
  | _ => false

def positional (parameters : List Parameter) : List Parameter :=
  parameters.takeWhile (· ≠ star)

structure WellFormed (parameters : List Parameter) : Prop where
  ordered : (positional parameters).Pairwise fun earlier later =>
    earlier.hasDefault → later.hasDefault
  followed : ∀ before after, parameters = before ++ star :: after → ∃ next ∈ after, next ≠ star

variable {table : PresentationTable}

/-- A default is all that tells the text of an argument from that of a required one. -/
theorem text_given (argument : Argument) :
    (given argument).text table = (given { argument with required := true }).text table
      ++ if (given argument).hasDefault then " = ..." else "" := by
  cases required : argument.required <;> simp [text, hasDefault, Argument.render, required]

theorem given_ne_star (argument : Argument) : given argument ≠ star := nofun

theorem star_not_mem_given (arguments : List Argument) : star ∉ arguments.map given := by
  intro member
  obtain ⟨argument, _, same⟩ := List.mem_map.1 member
  exact given_ne_star argument same

theorem positional_of_not_mem {parameters : List Parameter} (absent : star ∉ parameters) :
    positional parameters = parameters := by
  rw [positional, List.takeWhile_eq_self_iff]
  intro parameter member
  exact decide_eq_true fun same => absent (same ▸ member)

/-- Without the mark all that counts is the order of the defaults. -/
theorem wellFormed_given_iff {arguments : List Argument} : WellFormed (arguments.map given) ↔
    arguments.Pairwise fun earlier later => later.required → earlier.required := by
  have absent := star_not_mem_given arguments
  have order : (positional (arguments.map given)).Pairwise
      (fun earlier later => earlier.hasDefault → later.hasDefault) ↔
      arguments.Pairwise fun earlier later => later.required → earlier.required := by
    rw [positional_of_not_mem absent, List.pairwise_map]
    apply List.Pairwise.iff
    intro earlier later
    cases first : earlier.required <;> cases second : later.required <;>
      simp [hasDefault, first, second]
  constructor
  · intro wellFormed
    exact order.1 wellFormed.ordered
  · intro ordered
    refine ⟨order.2 ordered, fun before after split => ?_⟩
    rw [split] at absent
    exact absurd (List.mem_append_right before List.mem_cons_self) absent

/-- Behind the mark the order does not count, but there has to be something. -/
theorem wellFormed_star {parameter : Parameter} (plain : parameter ≠ star)
    {arguments : List Argument} (some : arguments ≠ []) :
    WellFormed (parameter :: star :: arguments.map given) where
  ordered := by
    have alone : positional (parameter :: star :: arguments.map given) = [parameter] := by
      simp [positional, plain]
    rw [alone]
    exact List.pairwise_singleton _ _
  followed := by
    intro before after split
    -- The mark stands in the second place only.
    rcases before with _ | ⟨first, _ | ⟨second, before⟩⟩
    · exact absurd (List.cons.inj split).1 plain
    · obtain ⟨argument, rest, rfl⟩ := List.exists_cons_of_ne_nil some
      simp only [List.cons_append, List.nil_append, List.cons.injEq, true_and] at split
      rw [← split.2]
      exact ⟨given argument, List.mem_cons_self, given_ne_star argument⟩
    · simp only [List.cons_append, List.cons.injEq] at split
      have inside : star ∈ arguments.map given := by
        rw [split.2.2]
        exact List.mem_append_right before List.mem_cons_self
      exact absurd inside (star_not_mem_given arguments)

end Parameter

namespace Callable
open Parameter
variable {table : PresentationTable}

def methodLayout (callable : Callable) : List Parameter :=
  receiver :: (if callable.arguments.isEmpty then [] else [star]) ++ callable.arguments.map given

def functionLayout (callable : Callable) : List Parameter :=
  callable.arguments.map given

theorem methodParameters_eq (callable : Callable) :
    callable.methodParameters table = callable.methodLayout.map (Parameter.text table) := by
  unfold methodParameters methodLayout
  cases callable.arguments <;> simp [Parameter.text, Function.comp_def]

theorem functionParameters_eq (callable : Callable) :
    callable.functionParameters table = callable.functionLayout.map (Parameter.text table) := by
  simp [functionParameters, functionLayout, Parameter.text, Function.comp_def]

theorem wellFormed_methodLayout (callable : Callable) : WellFormed callable.methodLayout := by
  unfold methodLayout
  by_cases nothing : callable.arguments = []
  · rw [nothing]
    refine ⟨List.pairwise_singleton _ _, fun before after split => ?_⟩
    have member : star ∈ [receiver] := by
      change [receiver] = _ at split
      rw [split]
      exact List.mem_append_right before List.mem_cons_self
    simp at member
  · have plain : receiver ≠ star := nofun
    rw [if_neg (by simpa using nothing)]
    exact wellFormed_star plain nothing

/-- The signature of a method always has a parameter list that can be read. That of a function has
one exactly when none of its arguments that are required comes after one that is not. -/
theorem signature_wellFormed_iff (table : PresentationTable) (callable : Callable) :
    (callable.methodSignature table =
        callable.signature table (callable.methodLayout.map (Parameter.text table)) ∧
      WellFormed callable.methodLayout) ∧
    callable.functionSignature table =
        callable.signature table (callable.functionLayout.map (Parameter.text table)) ∧
    (WellFormed callable.functionLayout ↔
      callable.arguments.Pairwise fun earlier later => later.required → earlier.required) ∧
    ∀ argument ∈ callable.arguments, (given argument).text table =
      (given { argument with required := true }).text table
        ++ if (given argument).hasDefault then " = ..." else "" := by
  rw [methodSignature, functionSignature, methodParameters_eq, functionParameters_eq]
  exact ⟨⟨rfl, callable.wellFormed_methodLayout⟩, rfl, wellFormed_given_iff,
    fun argument _ => text_given argument⟩

def optionalFirst : Callable where
  name := "get_object"
  arguments :=
    [{ name := "version", type := some (.builtin "str") },
     { name := "key", type := some (.builtin "str"), required := true }]
  returnType := .builtin "str"

theorem optionalFirst_unreadable :
    optionalFirst.functionSignature {} = "def get_object(version: str = ..., key: str) -> str:" ∧
    ¬ WellFormed optionalFirst.functionLayout := by
  refine ⟨by decide, fun wellFormed => ?_⟩
  have ordered := wellFormed_given_iff.1 wellFormed
  exact absurd ordered (by decide)

end Callable

/-!
How the signatures of components spell references. A signature is only as
quoted as the table presents what it refers to, and whatever a component refers
to is presented directly once the package is flattened. So no signature of a
component has a quoted reference, and each reads as it would without a table.
-/

namespace Piece

end Piece

namespace TypeExpr
variable {table other : PresentationTable}

mutual

/-- The pieces of a type depend on how the table presents its references, and on nothing else. -/
theorem pieces_congr : ∀ type : TypeExpr,
    (∀ name ∈ type.references, table.isForwardRef name = other.isForwardRef name) →
      type.pieces table = type.pieces other
  | builtin _, _ => by simp [pieces]
  | external _, _ => by simp [pieces]
  | ref name, alike => by
      simp [pieces, Piece.presented, alike name (by simp [references])]
  | selfRef, _ => by simp [pieces]
  | container _ [], _ => by simp [pieces]
  | container _ (arg :: args), alike => by
      simp only [references, referencesAll, List.mem_append] at alike
      simp [pieces, pieces_congr arg fun name occurs => alike name (Or.inl occurs),
        piecesRest_congr args fun name occurs => alike name (Or.inr occurs)]
  | literal _, _ => by simp [pieces]

theorem piecesRest_congr : ∀ types : List TypeExpr,
    (∀ name ∈ referencesAll types, table.isForwardRef name = other.isForwardRef name) →
      piecesRest table types = piecesRest other types
  | [], _ => by simp [piecesRest]
  | arg :: args, alike => by
      simp only [referencesAll, List.mem_append] at alike
      simp [piecesRest, pieces_congr arg fun name occurs => alike name (Or.inl occurs),
        piecesRest_congr args fun name occurs => alike name (Or.inr occurs)]

end

end TypeExpr

def Argument.pieces (table : PresentationTable) (argument : Argument) : List Piece :=
  .plain argument.name
    :: (match argument.type with
        | some type => .plain ": " :: type.pieces table
        | none => [])
    ++ [.plain (if argument.required then "" else " = ...")]

namespace Argument
variable (table : PresentationTable) (argument : Argument)

@[simp] theorem join_pieces : Piece.join id (argument.pieces table) = argument.render table := by
  unfold pieces render
  cases argument.type <;> simp [Piece.text, TypeExpr.render, String.append_assoc]

@[simp] theorem references_pieces : Piece.references (argument.pieces table) =
    argument.type.toList.flatMap (·.references) := by
  unfold pieces
  cases argument.type <;> simp [Piece.reference?]

@[simp] theorem follow_pieces : Piece.Follow table (argument.pieces table) := by
  unfold pieces
  cases argument.type <;> simp [Piece.reference?]

theorem pieces_congr {other : PresentationTable} (alike : ∀ type, argument.type = some type →
    ∀ name ∈ type.references, table.isForwardRef name = other.isForwardRef name) :
    argument.pieces table = argument.pieces other := by
  unfold pieces
  cases given : argument.type with
  | none => rfl
  | some type => simp only [TypeExpr.pieces_congr type (alike type given)]

end Argument

namespace Callable

section
variable (table : PresentationTable) (method : Callable)

end

end Callable

namespace Package

/-- The classes that are written for the components: their own, and those of the sub-resources. -/
def classes (package : Package) : List ClassOutline :=
  package.components
    ++ package.serviceResource.toList.flatMap fun resource => resource.subResources.map (·.outline)

variable {package flat : Package}

end Package

end ServiceStubs
