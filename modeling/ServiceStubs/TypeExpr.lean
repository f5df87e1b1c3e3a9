import ServiceStubs.Import
import ServiceStubs.Sorted
import ServiceStubs.Text
/-!
How generated code spells a reference to a type definition: by its bare name,
or quoted, because the definition may come later.
-/

namespace ServiceStubs

inductive Presentation
  | direct
  | forwardRef
deriving DecidableEq, Repr, Inhabited

structure PresentationTable where
  entries : List (String × Presentation) := []
deriving DecidableEq, Repr, Inhabited

namespace PresentationTable

def set (table : PresentationTable) (name : String) (mode : Presentation) : PresentationTable :=
  ⟨Sorted.insert (fun a b => compare a.1 b.1) (name, mode) table.entries⟩

def mode (table : PresentationTable) (name : String) : Presentation :=
  (table.entries.lookup name).getD .direct

def isForwardRef (table : PresentationTable) (name : String) : Bool :=
  table.mode name == .forwardRef

end PresentationTable

/-!
The types of fields, arguments and results, and their annotation text. A
reference names a type definition of the same service. Where a definition
refers to itself the reference is a `selfRef`, which is spelled as a mapping
with text keys and so never depends on the definition.
-/

structure ExternalType where
  module : String
  name : String
  minVersion : Option Version := none
  fallbackModule : Option String := none
deriving DecidableEq, Repr, Inhabited

namespace ExternalType

def record (type : ExternalType) : ImportRecord :=
  let plain := ImportRecord.named type.module type.name
  match type.minVersion, type.fallbackModule with
  | some version, some fallback => plain.gated version (.named fallback type.name)
  | _, _ => plain

end ExternalType

inductive TypeExpr
  | builtin (name : String)
  | external (type : ExternalType)
  | ref (name : String)
  | selfRef
  | container (outer : ExternalType) (args : List TypeExpr)
  | literal (values : List String)
deriving Repr, Inhabited

namespace TypeExpr

def typing (name : String) (args : List TypeExpr) : TypeExpr :=
  container { module := "typing", name } args

def listOf (item : TypeExpr) : TypeExpr :=
  typing "List" [item]

def dictOf (key value : TypeExpr) : TypeExpr :=
  typing "Dict" [key, value]

mutual

/-- The annotation text, with the name of each reference put through `rename`.
The table is asked for the reference's own name. -/
def renderWith (table : PresentationTable) (rename : String → String) : TypeExpr → String
  | builtin name => name
  | external type => type.name
  | ref name =>
      if table.isForwardRef name then "\"" ++ rename name ++ "\"" else rename name
  | selfRef => "Dict[str, Any]"
  | container outer [] => outer.name
  | container outer (arg :: args) =>
      outer.name ++ "[" ++ renderWith table rename arg ++ renderRest table rename args ++ "]"
  | literal values => "Literal[" ++ String.intercalate ", " (values.map Text.quoted) ++ "]"

def renderRest (table : PresentationTable) (rename : String → String) : List TypeExpr → String
  | [] => ""
  | arg :: args => ", " ++ renderWith table rename arg ++ renderRest table rename args

end

def render (table : PresentationTable) (type : TypeExpr) : String :=
  renderWith table id type

end TypeExpr

/-!
The order in which sets of types are listed: by kind, then part by part. Lists
compare lexicographically, text by code point, and an absent part comes before
a present one.
-/

theorem Version.order_eq_iff (a b : Version) : a.order b = .eq ↔ a = b := by
  cases a; cases b
  simp [order, Ordering.then_eq_eq]

instance : Std.LawfulEqOrd Version where
  compare_self := (Version.order_eq_iff _ _).2 rfl
  eq_of_compare := (Version.order_eq_iff _ _).1

namespace ExternalType

def order (a b : ExternalType) : Ordering :=
  (compare a.module b.module).then
    ((compare a.name b.name).then
      ((compare a.minVersion b.minVersion).then (compare a.fallbackModule b.fallbackModule)))

theorem order_eq_iff (a b : ExternalType) : a.order b = .eq ↔ a = b := by
  cases a; cases b
  simp [order, Ordering.then_eq_eq]

end ExternalType

namespace TypeExpr

def kind : TypeExpr → Nat
  | builtin _ => 0
  | external _ => 1
  | ref _ => 2
  | selfRef => 3
  | container _ _ => 4
  | literal _ => 5

mutual

def order : TypeExpr → TypeExpr → Ordering
  | builtin a, builtin b => compare a b
  | external a, external b => a.order b
  | ref a, ref b => compare a b
  | container outer args, container outer' args' => (outer.order outer').then (orderAll args args')
  | literal a, literal b => compare a b
  | a, b => compare a.kind b.kind

def orderAll : List TypeExpr → List TypeExpr → Ordering
  | [], [] => .eq
  | [], _ :: _ => .lt
  | _ :: _, [] => .gt
  | a :: as, b :: bs => (order a b).then (orderAll as bs)

end

mutual

theorem order_eq_iff : ∀ a b : TypeExpr, a.order b = .eq ↔ a = b
  | builtin _, b => by cases b <;> simp [order, kind]
  | external _, b => by cases b <;> simp [order, kind, ExternalType.order_eq_iff]
  | ref _, b => by cases b <;> simp [order, kind]
  | selfRef, b => by cases b <;> simp [order, kind]
  | container outer args, b => by
      cases b with
      | container outer' args' =>
          simp [order, Ordering.then_eq_eq, ExternalType.order_eq_iff, orderAll_eq_iff args args']
      | _ => simp [order, kind]
  | literal _, b => by cases b <;> simp [order, kind]

theorem orderAll_eq_iff : ∀ as bs : List TypeExpr, orderAll as bs = .eq ↔ as = bs
  | [], [] => by simp [orderAll]
  | [], _ :: _ => by simp [orderAll]
  | _ :: _, [] => by simp [orderAll]
  | a :: as, b :: bs => by
      simp [orderAll, Ordering.then_eq_eq, order_eq_iff a b, orderAll_eq_iff as bs]

end

instance : DecidableEq TypeExpr :=
  fun a b => decidable_of_iff (a.order b = .eq) (order_eq_iff a b)

end TypeExpr

/-!
What a type is made of: its leaf types, the definitions it refers to, and what
each leaf needs as an import.
-/

namespace TypeExpr

mutual

/-- The leaf types in the order they are met. A container gives its outer type
and the leaves of its arguments; a self reference gives the types it is spelled
with. -/
def leaves : TypeExpr → List TypeExpr
  | container outer args => external outer :: leavesAll args
  | selfRef => [external { module := "typing", name := "Dict" },
      external { module := "typing", name := "Any" }]
  | builtin name => [builtin name]
  | external type => [external type]
  | ref name => [ref name]
  | literal values => [literal values]

def leavesAll : List TypeExpr → List TypeExpr
  | [] => []
  | type :: rest => leaves type ++ leavesAll rest

end

def atoms (type : TypeExpr) : List TypeExpr :=
  Sorted.ofList order type.leaves

mutual

def references : TypeExpr → List String
  | ref name => [name]
  | container _ args => referencesAll args
  | _ => []

def referencesAll : List TypeExpr → List String
  | [] => []
  | type :: rest => references type ++ referencesAll rest

end

def referencedNames (type : TypeExpr) : List String :=
  Sorted.ofList compare type.references

mutual

def closeOver (name : String) : TypeExpr → TypeExpr
  | ref target => if target = name then selfRef else ref target
  | container outer args => container outer (closeOverAll name args)
  | type => type

def closeOverAll (name : String) : List TypeExpr → List TypeExpr
  | [] => []
  | type :: rest => closeOver name type :: closeOverAll name rest

end

mutual

theorem references_closeOver (name : String) :
    ∀ type : TypeExpr, (type.closeOver name).references = type.references.filter (· ≠ name)
  | .ref target => by
      by_cases same : target = name <;> simp [closeOver, references, same]
  | .container _ args => by
      simp [closeOver, references, references_closeOverAll name args]
  | .builtin _ => by simp [closeOver, references]
  | .external _ => by simp [closeOver, references]
  | .selfRef => by simp [closeOver, references]
  | .literal _ => by simp [closeOver, references]

theorem references_closeOverAll (name : String) :
    ∀ types : List TypeExpr,
      referencesAll (closeOverAll name types) =
        (referencesAll types).filter (· ≠ name)
  | [] => by simp [closeOverAll, referencesAll]
  | type :: rest => by
      simp [closeOverAll, referencesAll, references_closeOver name type,
        references_closeOverAll name rest]

end

mutual

def mentions (name : String) : TypeExpr → Bool
  | ref target => target == name
  | container _ args => mentionsAny name args
  | _ => false

def mentionsAny (name : String) : List TypeExpr → Bool
  | [] => false
  | type :: rest => mentions name type || mentionsAny name rest

end

def record : TypeExpr → Option ImportRecord
  | builtin name => some (.named ModulePath.builtinsName name)
  | external type => some type.record
  | ref name => some (.ofSibling .typeDefs name)
  | literal _ =>
      some ((ImportRecord.named "typing" "Literal").gated ⟨3, 8⟩
        (.named "typing_extensions" "Literal"))
  | selfRef | container _ _ => none

def atomsOf (types : List TypeExpr) : List TypeExpr :=
  Sorted.ofList order (types.flatMap leaves)

end TypeExpr

end ServiceStubs
