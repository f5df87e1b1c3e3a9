import Mathlib.Data.List.Forall2
import ServiceStubs.Proofs.TypeExpr
/-!
Self references made explicit. Closing a type over a name turns every reference
to that name, at whatever depth, and nothing else; it says whether there was
any. So resolving a descriptor changes no more of it than the references to
itself, and a descriptor that was resolved, or built field by field, has none
left to turn.
-/

namespace ServiceStubs

namespace TypeExpr

/-- The part of a type at a place, which is given by the positions of the arguments that lead
there. -/
def part? : TypeExpr → List Nat → Option TypeExpr
  | type, [] => some type
  | container _ args, position :: place => args[position]?.bind fun arg => part? arg place
  | _, _ :: _ => none

/-- Both types have parts in the same places, and the same ones, but that each reference to `name`
in the first is a self reference in the second. -/
structure ClosesOver (name : String) (type closed : TypeExpr) : Prop where
  places : ∀ place, (closed.part? place).isSome = (type.part? place).isSome
  turned : ∀ place, type.part? place = some (.ref name) → closed.part? place = some .selfRef
  kept : ∀ place leaf, type.part? place = some leaf → leaf ≠ .ref name →
    (∀ outer args, leaf ≠ .container outer args) → closed.part? place = some leaf
  containers : ∀ place outer args, type.part? place = some (.container outer args) →
    ∃ others, closed.part? place = some (.container outer others) ∧ others.length = args.length

section CloseOver
variable (name : String)

mutual

theorem mentions_iff : ∀ type : TypeExpr, type.mentions name = true ↔ name ∈ type.references
  | .ref target => by simp [mentions, references, eq_comm (a := name)]
  | .container _ args => by simp [mentions, references, mentionsAny_iff args]
  | .builtin _ => by simp [mentions, references]
  | .external _ => by simp [mentions, references]
  | .selfRef => by simp [mentions, references]
  | .literal _ => by simp [mentions, references]

theorem mentionsAny_iff :
    ∀ types : List TypeExpr, mentionsAny name types = true ↔ name ∈ referencesAll types
  | [] => by simp [mentionsAny, referencesAll]
  | type :: rest => by
      simp [mentionsAny, referencesAll, mentions_iff type, mentionsAny_iff rest]

end

theorem closeOverAll_eq_map (types : List TypeExpr) :
    closeOverAll name types = types.map (closeOver name) := by
  induction types with
  | nil => simp [closeOverAll]
  | cons type rest ih => simp [closeOverAll, ih]

theorem part?_closeOver (type : TypeExpr) (place : List Nat) :
    (type.closeOver name).part? place = (type.part? place).map (closeOver name) := by
  induction place generalizing type with
  | nil => cases type <;> simp [part?]
  | cons position place ih =>
      cases type with
      | container outer args =>
          simp only [closeOver, part?, closeOverAll_eq_map, List.getElem?_map]
          cases args[position]? with
          | none => rfl
          | some arg => exact ih arg
      | ref target =>
          by_cases same : target = name <;> simp [closeOver, part?, same]
      | builtin other => simp [closeOver, part?]
      | external other => simp [closeOver, part?]
      | selfRef => simp [closeOver, part?]
      | literal values => simp [closeOver, part?]

theorem closeOver_eq_self_iff (type : TypeExpr) :
    type.closeOver name = type ↔ name ∉ type.references := by
  refine ⟨fun unchanged occurs => ?_, closeOver_eq_self name type⟩
  rw [← unchanged, references_closeOver] at occurs
  simp at occurs

theorem closeOver_leaf {leaf : TypeExpr} (other : leaf ≠ .ref name)
    (simple : ∀ outer args, leaf ≠ .container outer args) : leaf.closeOver name = leaf := by
  apply closeOver_eq_self
  cases leaf with
  | ref target => simpa [references, eq_comm] using other
  | container outer args => exact absurd rfl (simple outer args)
  | builtin other => simp [references]
  | external other => simp [references]
  | selfRef => simp [references]
  | literal values => simp [references]

theorem closesOver_closeOver (type : TypeExpr) : type.ClosesOver name (type.closeOver name) where
  places place := by rw [part?_closeOver, Option.isSome_map]
  turned place here := by simp [part?_closeOver, here, closeOver]
  kept place leaf here other simple := by
    rw [part?_closeOver, here, Option.map_some, closeOver_leaf name other simple]
  containers place outer args here := by
    refine ⟨closeOverAll name args, by simp [part?_closeOver, here, closeOver], ?_⟩
    rw [closeOverAll_eq_map, List.length_map]

end CloseOver

theorem mem_referencedNames {name : String} {type : TypeExpr} :
    name ∈ type.referencedNames ↔ name ∈ type.references :=
  Sorted.mem_ofList

theorem referencedNames_closeOver (name : String) (type : TypeExpr) :
    (type.closeOver name).referencedNames = type.referencedNames.filter (· ≠ name) := by
  refine Sorted.Increasing.eq_of_mem_iff (Sorted.increasing_ofList _)
    (List.Pairwise.filter _ (Sorted.increasing_ofList _)) fun other => ?_
  simp [mem_referencedNames, references_closeOver]

end TypeExpr

namespace Descriptor

theorem selfReferring_eq_nil {descriptor : Descriptor} (resolved : descriptor.IsResolved) :
    descriptor.selfReferring = [] := by
  rw [selfReferring, List.map_eq_nil_iff, List.filter_eq_nil_iff]
  intro field member mentioned
  exact resolved field member ((TypeExpr.mentions_iff _ _).1 mentioned)

theorem addField_ofFields (name : String) (fields : List Field) (field : Field) :
    (ofFields name fields).addField field.name field.type field.required =
      ofFields name (fields ++ [field]) := by
  simp [addField, ofFields, resolve]

/-- Adding fields one by one comes to building the descriptor with all of them. -/
theorem foldl_addField (name : String) (fields added : List Field) :
    added.foldl (fun built field => built.addField field.name field.type field.required)
      (ofFields name fields) = ofFields name (fields ++ added) := by
  induction added generalizing fields with
  | nil => simp
  | cons field rest ih =>
      rw [List.foldl_cons, addField_ofFields, ih, List.append_assoc, List.singleton_append]

theorem selfReferring_eq (descriptor : Descriptor) :
    descriptor.selfReferring = (descriptor.fields.filter fun field =>
      descriptor.name ∈ field.type.referencedNames).map (·.name) := by
  have same : ∀ field : Field, field.type.mentions descriptor.name =
      decide (descriptor.name ∈ field.type.referencedNames) := by
    intro field
    rw [Bool.eq_iff_iff, TypeExpr.mentions_iff, decide_eq_true_iff, TypeExpr.mem_referencedNames]
  simp only [selfReferring, same]

structure Resolves (given resolved : Descriptor) : Prop where
  name : resolved.name = given.name
  docstring : resolved.docstring = given.docstring
  children : resolved.children = given.children
  fields : List.Forall₂ (fun before after : Field => after.name = before.name ∧
    after.required = before.required ∧ before.type.ClosesOver given.name after.type)
    given.fields resolved.fields

structure Closed (descriptor : Descriptor) : Prop where
  unreferenced : ∀ field ∈ descriptor.fields, descriptor.name ∉ field.type.referencedNames
  unreported : descriptor.selfReferring = []
  stable : descriptor.resolve = descriptor

theorem closed_of_isResolved {descriptor : Descriptor} (resolved : descriptor.IsResolved) :
    descriptor.Closed where
  unreferenced field member occurs := resolved field member (TypeExpr.mem_referencedNames.1 occurs)
  unreported := selfReferring_eq_nil resolved
  stable := resolve_eq_self resolved

theorem resolves_resolve (descriptor : Descriptor) : descriptor.Resolves descriptor.resolve where
  name := rfl
  docstring := rfl
  children := descriptor.children_resolve
  fields := by
    refine List.forall₂_map_right_iff.2 (List.forall₂_same.2 fun field _ => ⟨rfl, rfl, ?_⟩)
    exact TypeExpr.closesOver_closeOver descriptor.name field.type

end Descriptor

/-- Closing a type over a name reports whether the name occurs among its references; it then turns
these references and nothing else, at every depth, and leaves the other names referred to. So
resolving a descriptor reports the fields that refer to it, in order, and changes nothing of it but
these references; what is resolved, or is built from fields and then given more, is resolved for
good. -/
theorem closeOver_turnsReferences :
    (∀ (name : String) (type : TypeExpr),
      (type.mentions name = true ↔ name ∈ type.referencedNames) ∧
      (type.mentions name = false ↔ type.closeOver name = type) ∧
      type.ClosesOver name (type.closeOver name) ∧
      (type.closeOver name).referencedNames = type.referencedNames.filter (· ≠ name)) ∧
    (∀ descriptor : Descriptor,
      descriptor.selfReferring = (descriptor.fields.filter fun field =>
        descriptor.name ∈ field.type.referencedNames).map (·.name) ∧
      descriptor.Resolves descriptor.resolve ∧ descriptor.resolve.Closed) ∧
    ∀ (name : String) (fields added : List Field),
      (added.foldl (fun built field => built.addField field.name field.type field.required)
        (Descriptor.ofFields name fields)).Closed := by
  refine ⟨fun name type => ⟨?_, ?_, ?_, ?_⟩, fun descriptor => ⟨?_, ?_, ?_⟩, ?_⟩
  · rw [TypeExpr.mentions_iff, TypeExpr.mem_referencedNames]
  · rw [TypeExpr.closeOver_eq_self_iff, ← TypeExpr.mentions_iff, Bool.not_eq_true]
  · exact TypeExpr.closesOver_closeOver name type
  · exact TypeExpr.referencedNames_closeOver name type
  · exact descriptor.selfReferring_eq
  · exact descriptor.resolves_resolve
  · exact Descriptor.closed_of_isResolved descriptor.isResolved_resolve
  · intro name fields added
    rw [Descriptor.foldl_addField]
    exact Descriptor.closed_of_isResolved (Descriptor.isResolved_resolve _)

def branching : Descriptor where
  name := "Node"
  fields := [{ name := "Peer", type := .ref "Peer" },
    { name := "Children", type := .dictOf (.ref "Peer") (.listOf (.ref "Node"))
      required := false }]
  docstring := "A node."

theorem branching_turned :
    let type := TypeExpr.dictOf (.ref "Peer") (.listOf (.ref "Node"))
    (type.closeOver "Node").part? [1, 0] = some .selfRef ∧
    (type.closeOver "Node").part? [0] = some (.ref "Peer") ∧
    type.mentions "Leaf" = false ∧ type.closeOver "Leaf" = type ∧
    branching.selfReferring = ["Children"] ∧ branching.resolve.selfReferring = [] ∧
    ((Descriptor.ofFields "Node" branching.fields).addField "Next" (.ref "Node") true).Closed := by
  intro type
  obtain ⟨ofType, ofDescriptor, ofBuilding⟩ := closeOver_turnsReferences
  obtain ⟨_, _, closes, _⟩ := ofType "Node" type
  obtain ⟨reported, _, closed⟩ := ofDescriptor branching
  have absent : type.mentions "Leaf" = false := by decide
  refine ⟨closes.turned [1, 0] rfl, closes.kept [0] (.ref "Peer") rfl (by decide) nofun, absent,
    (ofType "Leaf" type).2.1.1 absent, reported.trans (by decide), closed.unreported,
    ofBuilding "Node" branching.fields [{ name := "Next", type := .ref "Node" }]⟩

end ServiceStubs
