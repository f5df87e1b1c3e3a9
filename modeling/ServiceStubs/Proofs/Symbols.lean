import Mathlib.Data.List.Basic
import ServiceStubs.Proofs.Imports
import ServiceStubs.Proofs.TypeOrder
/-!
What the text of an annotation is made of, against the leaf types and the
references of the type. The text is taken apart into lexemes, so that a name
that needs an import can be told from a builtin name, from a reference, from the
key type of a self reference and from the values of a literal. A container
without arguments is its outer name alone.
-/

namespace ServiceStubs

inductive Lexeme
  | builtin (name : String)
  | reference (name : String)
  | symbol (name : String)
  | value (text : String)
  | key
  | opening
  | comma
  | closing
deriving DecidableEq, Repr

namespace Lexeme

def text (table : PresentationTable) (rename : String → String) : Lexeme → String
  | builtin name => name
  | reference name =>
      if table.isForwardRef name then "\"" ++ rename name ++ "\"" else rename name
  | symbol name => name
  | value text => Text.quoted text
  | key => "str"
  | opening => "["
  | comma => ", "
  | closing => "]"

def join (table : PresentationTable) (rename : String → String) (lexemes : List Lexeme) : String :=
  String.join (lexemes.map (text table rename))

/-- Among the leaf types there is the one that the lexeme comes from, which for a symbol is one
whose import binds that name. -/
def Backed (leaves : List TypeExpr) : Lexeme → Prop
  | builtin name => .builtin name ∈ leaves
  | reference name => .ref name ∈ leaves
  | symbol name => ∃ leaf ∈ leaves, ∃ record, leaf.record = some record ∧ record.name = some name
  | value text => ∃ values, .literal values ∈ leaves ∧ text ∈ values
  | key | opening | comma | closing => True

/-- Each key type stands in the mapping of a self reference. -/
def KeysEnclosed (lexemes : List Lexeme) : Prop :=
  ∀ before after, lexemes = before ++ key :: after →
    [symbol "Dict", opening] <:+ before ∧ [comma, symbol "Any", closing] <+: after

section
variable (table : PresentationTable) (rename : String → String)

@[simp] theorem join_nil : join table rename [] = "" :=
  rfl

@[simp] theorem join_cons (lexeme : Lexeme) (lexemes : List Lexeme) :
    join table rename (lexeme :: lexemes) =
      lexeme.text table rename ++ join table rename lexemes := by
  simp [join]

@[simp] theorem join_append (lexemes others : List Lexeme) :
    join table rename (lexemes ++ others) =
      join table rename lexemes ++ join table rename others := by
  simp [join]

@[simp] theorem join_intersperse_comma (lexemes : List Lexeme) :
    join table rename (lexemes.intersperse comma) =
      String.intercalate ", " (lexemes.map (text table rename)) := by
  fun_induction List.intersperse comma lexemes with
  | case1 => simp
  | case2 lexeme => simp
  | case3 lexeme rest nonempty ih =>
      obtain ⟨next, later, rfl⟩ := List.exists_cons_of_ne_nil nonempty
      simp [ih, text, String.append_assoc]

end

theorem mem_of_mem_intersperse {lexeme : Lexeme} {lexemes : List Lexeme}
    (member : lexeme ∈ lexemes.intersperse comma) : lexeme = comma ∨ lexeme ∈ lexemes := by
  fun_induction List.intersperse comma lexemes with
  | case1 => cases member
  | case2 only => exact .inr member
  | case3 first rest nonempty ih =>
      rcases List.mem_cons.1 member with rfl | member
      · exact .inr List.mem_cons_self
      · rcases List.mem_cons.1 member with rfl | later
        · exact .inl rfl
        · exact (ih later).imp_right (List.mem_cons_of_mem first)

theorem Backed.mono {leaves more : List TypeExpr} (contained : leaves ⊆ more) {lexeme : Lexeme}
    (backed : lexeme.Backed leaves) : lexeme.Backed more := by
  cases lexeme with
  | builtin name => exact contained backed
  | reference name => exact contained backed
  | symbol name =>
      obtain ⟨leaf, member, imported⟩ := backed
      exact ⟨leaf, contained member, imported⟩
  | value text =>
      obtain ⟨values, member, listed⟩ := backed
      exact ⟨values, contained member, listed⟩
  | key | opening | comma | closing => trivial

theorem backed_external {type : ExternalType} {leaves : List TypeExpr}
    (member : .external type ∈ leaves) : (symbol type.name).Backed leaves :=
  ⟨_, member, _, rfl, type.record_name⟩

theorem backed_opened {name : String} {leaves : List TypeExpr}
    (backed : (symbol name).Backed leaves) :
    ∀ lexeme ∈ [symbol name, opening], lexeme.Backed leaves :=
  List.forall_mem_cons.2 ⟨backed, List.forall_mem_singleton.2 trivial⟩

theorem backed_closing {leaves : List TypeExpr} : ∀ lexeme ∈ [closing], lexeme.Backed leaves :=
  List.forall_mem_singleton.2 trivial

theorem keysEnclosed_of_not_mem {lexemes : List Lexeme} (absent : key ∉ lexemes) :
    KeysEnclosed lexemes := by
  rintro before after rfl
  exact absurd (List.mem_append_right before List.mem_cons_self) absent

theorem keysEnclosed_mapping :
    KeysEnclosed [symbol "Dict", opening, key, comma, symbol "Any", closing] := by
  intro before after split
  have absent : key ∉ [symbol "Dict", opening] ∧ key ∉ [comma, symbol "Any", closing] := by decide
  obtain ⟨rfl, _, rfl⟩ := (List.append_cons_inj_of_notMem absent.1 absent.2).1 split
  exact ⟨List.suffix_refl _, List.prefix_refl _⟩

theorem KeysEnclosed.append {lexemes others : List Lexeme} (left : KeysEnclosed lexemes)
    (right : KeysEnclosed others) : KeysEnclosed (lexemes ++ others) := by
  intro before after split
  rcases List.append_eq_append_iff.1 split with ⟨middle, rfl, later⟩ | ⟨middle, rfl, earlier⟩
  · obtain ⟨opened, closed⟩ := right middle after later
    exact ⟨opened.trans (List.suffix_append _ _), closed⟩
  · rcases List.cons_eq_append_iff.1 earlier with ⟨rfl, here⟩ | ⟨later, rfl, rest⟩
    · obtain ⟨opened, closed⟩ := right [] after here
      cases List.suffix_nil.1 opened
    · obtain ⟨opened, closed⟩ := left before later rfl
      exact ⟨opened, rest ▸ closed.trans (List.prefix_append _ _)⟩

end Lexeme

namespace TypeExpr

inductive IsLeaf : TypeExpr → Prop
  | builtin (name : String) : IsLeaf (.builtin name)
  | external (type : ExternalType) : IsLeaf (.external type)
  | ref (name : String) : IsLeaf (.ref name)
  | literal (values : List String) : IsLeaf (.literal values)

theorem IsLeaf.record_isSome {leaf : TypeExpr} (isLeaf : leaf.IsLeaf) : leaf.record.isSome := by
  cases isLeaf <;> rfl

mutual

theorem isLeaf_of_mem_leaves : ∀ type : TypeExpr, ∀ leaf ∈ type.leaves, leaf.IsLeaf
  | .builtin _ => by simp [leaves, IsLeaf.builtin]
  | .external _ => by simp [leaves, IsLeaf.external]
  | .ref _ => by simp [leaves, IsLeaf.ref]
  | .selfRef => by simp [leaves, IsLeaf.external]
  | .container outer args => by
      rw [leaves, List.forall_mem_cons]
      exact ⟨.external outer, isLeaf_of_mem_leavesAll args⟩
  | .literal _ => by simp [leaves, IsLeaf.literal]

theorem isLeaf_of_mem_leavesAll : ∀ types : List TypeExpr, ∀ leaf ∈ leavesAll types, leaf.IsLeaf
  | [] => by simp [leavesAll]
  | type :: rest => by
      rw [leavesAll, List.forall_mem_append]
      exact ⟨isLeaf_of_mem_leaves type, isLeaf_of_mem_leavesAll rest⟩

end

def ref? : TypeExpr → Option String
  | ref name => some name
  | _ => none

theorem ref?_eq_some {type : TypeExpr} {name : String} :
    type.ref? = some name ↔ type = ref name := by
  cases type <;> simp [ref?]

theorem mem_filterMap_ref? {types : List TypeExpr} {name : String} :
    name ∈ types.filterMap ref? ↔ ref name ∈ types := by
  simp [ref?_eq_some]

/-- References are in the order of their names, so nothing is sorted anew. -/
theorem increasing_filterMap_ref? {types : List TypeExpr}
    (increasing : Sorted.Increasing order types) :
    Sorted.Increasing compare (types.filterMap ref?) := by
  refine List.pairwise_filterMap.2 (increasing.imp ?_)
  intro type type' before name named name' named'
  obtain rfl := ref?_eq_some.1 named
  obtain rfl := ref?_eq_some.1 named'
  simpa [order] using before

theorem filterMap_ref?_ofList {leaves : List TypeExpr} {names : List String}
    (same : ∀ name, ref name ∈ leaves ↔ name ∈ names) :
    (Sorted.ofList order leaves).filterMap ref? = Sorted.ofList compare names := by
  refine Sorted.Increasing.eq_of_mem_iff
    (increasing_filterMap_ref? (Sorted.increasing_ofList _)) (Sorted.increasing_ofList _)
    fun name => ?_
  rw [mem_filterMap_ref?, Sorted.mem_ofList, Sorted.mem_ofList]
  exact same name

theorem filterMap_ref?_atoms (type : TypeExpr) :
    type.atoms.filterMap ref? = type.referencedNames :=
  filterMap_ref?_ofList fun name => ref_mem_leaves name type

mutual

def lexemes : TypeExpr → List Lexeme
  | builtin name => [.builtin name]
  | external type => [.symbol type.name]
  | ref name => [.reference name]
  | selfRef => [.symbol "Dict", .opening, .key, .comma, .symbol "Any", .closing]
  | container outer [] => [.symbol outer.name]
  | container outer (arg :: args) =>
      [.symbol outer.name, .opening] ++ lexemes arg ++ lexemesRest args ++ [.closing]
  | literal values =>
      [.symbol "Literal", .opening] ++ (values.map .value).intersperse .comma ++ [.closing]

def lexemesRest : List TypeExpr → List Lexeme
  | [] => []
  | arg :: args => .comma :: lexemes arg ++ lexemesRest args

end

section
variable (table : PresentationTable) (rename : String → String)

mutual

theorem join_lexemes :
    ∀ type : TypeExpr, Lexeme.join table rename type.lexemes = type.renderWith table rename
  | builtin _ => by simp [lexemes, renderWith, Lexeme.text]
  | external _ => by simp [lexemes, renderWith, Lexeme.text]
  | ref _ => by simp [lexemes, renderWith, Lexeme.text]
  | selfRef => by simp [lexemes, renderWith, Lexeme.text]
  | container _ [] => by simp [lexemes, renderWith, Lexeme.text]
  | container _ (arg :: args) => by
      simp [lexemes, renderWith, Lexeme.text, join_lexemes arg, join_lexemesRest args,
        String.append_assoc]
  | literal values => by
      have values : (values.map Lexeme.value).map (Lexeme.text table rename) =
          values.map Text.quoted := by
        rw [List.map_map]; rfl
      have opened (rest : String) : "Literal" ++ ("[" ++ rest) = "Literal[" ++ rest :=
        (String.append_assoc ..).symm
      simp [lexemes, renderWith, Lexeme.text, values, opened, String.append_assoc]

theorem join_lexemesRest :
    ∀ types : List TypeExpr,
      Lexeme.join table rename (lexemesRest types) = renderRest table rename types
  | [] => rfl
  | arg :: args => by
      simp [lexemesRest, renderRest, Lexeme.text, join_lexemes arg, join_lexemesRest args,
        String.append_assoc]

end

end

mutual

/-- Everything that a type is spelled with is accounted for by its leaf types. -/
theorem backed_lexemes : ∀ type : TypeExpr, ∀ lexeme ∈ type.lexemes, lexeme.Backed type.leaves
  | builtin _ => by simp [lexemes, leaves, Lexeme.Backed]
  | external _ => by
      rw [lexemes, List.forall_mem_singleton]
      exact Lexeme.backed_external List.mem_cons_self
  | ref _ => by simp [lexemes, leaves, Lexeme.Backed]
  | selfRef => by
      have mapping : (Lexeme.symbol "Dict").Backed selfRef.leaves :=
        Lexeme.backed_external List.mem_cons_self
      have anything : (Lexeme.symbol "Any").Backed selfRef.leaves :=
        Lexeme.backed_external (List.mem_cons_of_mem _ List.mem_cons_self)
      rw [lexemes]
      repeat rw [List.forall_mem_cons]
      exact ⟨mapping, trivial, trivial, trivial, anything, trivial, List.forall_mem_nil _⟩
  | container outer [] => by
      rw [lexemes, List.forall_mem_singleton]
      exact Lexeme.backed_external List.mem_cons_self
  | container outer (arg :: args) => by
      have first : arg.leaves ⊆ leaves (container outer (arg :: args)) := by
        intro leaf member
        exact List.mem_cons_of_mem _ (List.mem_append_left _ member)
      have others : leavesAll args ⊆ leaves (container outer (arg :: args)) := by
        intro leaf member
        exact List.mem_cons_of_mem _ (List.mem_append_right _ member)
      rw [lexemes, List.forall_mem_append, List.forall_mem_append, List.forall_mem_append]
      refine ⟨⟨⟨?_, fun lexeme member => ?_⟩, fun lexeme member => ?_⟩, ?_⟩
      · exact Lexeme.backed_opened (Lexeme.backed_external List.mem_cons_self)
      · exact (backed_lexemes arg lexeme member).mono first
      · exact (backed_lexemesRest args lexeme member).mono others
      · exact Lexeme.backed_closing
  | literal values => by
      rw [lexemes, List.forall_mem_append, List.forall_mem_append]
      refine ⟨⟨?_, fun lexeme member => ?_⟩, Lexeme.backed_closing⟩
      · exact Lexeme.backed_opened ⟨_, List.mem_cons_self, _, rfl, rfl⟩
      · rcases Lexeme.mem_of_mem_intersperse member with rfl | listed
        · trivial
        · obtain ⟨value, given, rfl⟩ := List.mem_map.1 listed
          exact ⟨values, List.mem_cons_self, given⟩

theorem backed_lexemesRest :
    ∀ types : List TypeExpr, ∀ lexeme ∈ lexemesRest types, lexeme.Backed (leavesAll types)
  | [] => List.forall_mem_nil _
  | arg :: args => by
      rw [lexemesRest, List.forall_mem_append, List.forall_mem_cons]
      refine ⟨⟨trivial, fun lexeme member => ?_⟩, fun lexeme member => ?_⟩
      · exact (backed_lexemes arg lexeme member).mono (List.subset_append_left _ _)
      · exact (backed_lexemesRest args lexeme member).mono (List.subset_append_right _ _)

end

mutual

theorem keysEnclosed_lexemes : ∀ type : TypeExpr, Lexeme.KeysEnclosed type.lexemes
  | builtin _ => Lexeme.keysEnclosed_of_not_mem (by simp [lexemes])
  | external _ => Lexeme.keysEnclosed_of_not_mem (by simp [lexemes])
  | ref _ => Lexeme.keysEnclosed_of_not_mem (by simp [lexemes])
  | selfRef => Lexeme.keysEnclosed_mapping
  | container _ [] => Lexeme.keysEnclosed_of_not_mem (by simp [lexemes])
  | container outer (arg :: args) => by
      have opened : Lexeme.KeysEnclosed [.symbol outer.name, .opening] :=
        Lexeme.keysEnclosed_of_not_mem (by simp)
      have closed : Lexeme.KeysEnclosed [.closing] := Lexeme.keysEnclosed_of_not_mem (by simp)
      rw [lexemes]
      exact ((opened.append (keysEnclosed_lexemes arg)).append
        (keysEnclosed_lexemesRest args)).append closed
  | literal values => by
      refine Lexeme.keysEnclosed_of_not_mem fun member => ?_
      have inside : .key ∈ (values.map Lexeme.value).intersperse .comma := by
        simpa [lexemes] using member
      rcases Lexeme.mem_of_mem_intersperse inside with same | listed
      · cases same
      · obtain ⟨_, _, same⟩ := List.mem_map.1 listed
        cases same

theorem keysEnclosed_lexemesRest :
    ∀ types : List TypeExpr, Lexeme.KeysEnclosed (lexemesRest types)
  | [] => Lexeme.keysEnclosed_of_not_mem List.not_mem_nil
  | arg :: args => by
      have comma : Lexeme.KeysEnclosed [.comma] := Lexeme.keysEnclosed_of_not_mem (by simp)
      rw [lexemesRest]
      exact (comma.append (keysEnclosed_lexemes arg)).append (keysEnclosed_lexemesRest args)

end

end TypeExpr

/-- The other descriptors that the fields refer to are the references among their leaf types. -/
theorem Descriptor.filterMap_ref?_childTypes (descriptor : Descriptor) :
    (descriptor.childTypes.filterMap TypeExpr.ref?).filter (· ≠ descriptor.name) =
      descriptor.children := by
  have increasing : Sorted.Increasing TypeExpr.order descriptor.childTypes :=
    Sorted.increasing_ofList _
  refine Sorted.Increasing.eq_of_mem_iff
    (List.Pairwise.filter _ (TypeExpr.increasing_filterMap_ref? increasing))
    (Sorted.increasing_ofList _) fun name => ?_
  rw [mem_children, List.mem_filter, TypeExpr.mem_filterMap_ref?, childTypes, TypeExpr.mem_atomsOf]
  simp [TypeExpr.ref_mem_atoms, and_comm]

/-- Leaf types, references and text of a type stay in step. What a type is made of is a leaf and
has an import, and the references among that are the names that the type refers to. The text of its
annotation is spelled with nothing else: every symbol is the name that the import of a leaf type
binds, apart from the key type inside the mapping of a self reference. And the children of a
descriptor are the references among the leaf types of its fields, without its own name. -/
theorem annotation_accounted :
    (∀ type : TypeExpr,
      (∀ leaf ∈ type.atoms, leaf.IsLeaf ∧ leaf.record.isSome) ∧
      type.atoms.filterMap TypeExpr.ref? = type.referencedNames ∧
      (∀ table rename, Lexeme.join table rename type.lexemes = type.renderWith table rename) ∧
      (∀ lexeme ∈ type.lexemes, lexeme.Backed type.atoms) ∧
      Lexeme.KeysEnclosed type.lexemes) ∧
    ∀ descriptor : Descriptor,
      (descriptor.childTypes.filterMap TypeExpr.ref?).filter (· ≠ descriptor.name) =
        descriptor.children := by
  refine ⟨fun type => ⟨fun leaf member => ?_, type.filterMap_ref?_atoms, fun table rename => ?_,
    fun lexeme member => ?_, type.keysEnclosed_lexemes⟩, Descriptor.filterMap_ref?_childTypes⟩
  · have isLeaf := type.isLeaf_of_mem_leaves leaf (TypeExpr.mem_atoms.1 member)
    exact ⟨isLeaf, isLeaf.record_isSome⟩
  · exact TypeExpr.join_lexemes table rename type
  · exact (type.backed_lexemes lexeme member).mono fun leaf => TypeExpr.mem_atoms.2

end ServiceStubs
