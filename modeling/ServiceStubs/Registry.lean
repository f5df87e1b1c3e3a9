import ServiceStubs.Descriptor
/-!
The type descriptors one service knows, by name. Each is resolved, and the list
is in name order without repetition. What a second descriptor of a known name
does is the policy's choice: under the strict one it has to agree with the
first, otherwise the first is kept whatever the second says.
-/

namespace ServiceStubs

inductive DuplicatePolicy
  | strict
  | firstWins
deriving DecidableEq, Repr, Inhabited

inductive AssemblyError
  | nameConflict (service name : String)
  | unresolvedReference (service name referencedBy : String)
deriving DecidableEq, Repr

namespace AssemblyError

def service : AssemblyError → String
  | nameConflict service _ => service
  | unresolvedReference service _ _ => service

def descriptor : AssemblyError → String
  | nameConflict _ name => name
  | unresolvedReference _ name _ => name

def message : AssemblyError → String
  | nameConflict service name =>
      "service '" ++ service ++ "': two different type descriptors are named '" ++ name ++ "'"
  | unresolvedReference service name referencedBy =>
      "service '" ++ service ++ "': '" ++ referencedBy
        ++ "' references unknown type descriptor '" ++ name ++ "'"

end AssemblyError

structure Registry where
  service : String
  policy : DuplicatePolicy
  descriptors : List Descriptor := []
  increasing : Sorted.Increasing Descriptor.order descriptors := by exact List.Pairwise.nil
  resolved : ∀ descriptor ∈ descriptors, descriptor.IsResolved := by simp

namespace Registry

def empty (service : String) (policy : DuplicatePolicy) : Registry :=
  { service, policy }

def names (registry : Registry) : List String :=
  registry.descriptors.map (·.name)

def find? (registry : Registry) (name : String) : Option Descriptor :=
  registry.descriptors.find? (·.name == name)

def contains (registry : Registry) (name : String) : Bool :=
  (registry.find? name).isSome

def get (registry : Registry) (name referencedBy : String) : Except AssemblyError Descriptor :=
  match registry.find? name with
  | some descriptor => .ok descriptor
  | none => .error (.unresolvedReference registry.service name referencedBy)

def checkDuplicate (registry : Registry) (existing duplicate : Descriptor) :
    Except AssemblyError Unit :=
  if existing.agrees duplicate then .ok ()
  else
    match registry.policy with
    | .strict => .error (.nameConflict registry.service duplicate.name)
    | .firstWins => .ok ()

def checkRegistered (registry : Registry) (descriptor : Descriptor) : Except AssemblyError Unit :=
  match registry.find? descriptor.name with
  | some known => registry.checkDuplicate known descriptor
  | none => .ok ()

def add (registry : Registry) (descriptor : Descriptor) : Registry :=
  { registry with
    descriptors := Sorted.insert Descriptor.order descriptor.resolve registry.descriptors
    increasing := registry.increasing.insert _
    resolved := by
      intro known member
      rcases Sorted.mem_of_mem_insert member with rfl | earlier
      · exact descriptor.isResolved_resolve
      · exact registry.resolved known earlier }

-- A descriptor that is refused leaves the registry as it is, and so does one that is dropped.
def insert (registry : Registry) (descriptor : Descriptor) :
    Registry × Except AssemblyError Unit :=
  match registry.find? descriptor.name with
  | some existing => (registry, registry.checkDuplicate existing descriptor.resolve)
  | none => (registry.add descriptor, .ok ())

def insertAll (registry : Registry) : List Descriptor → Registry × Except AssemblyError Unit
  | [] => (registry, .ok ())
  | descriptor :: rest =>
      match registry.insert descriptor with
      | (reached, .ok ()) => reached.insertAll rest
      | (reached, .error conflict) => (reached, .error conflict)

def ofDescriptors (service : String) (policy : DuplicatePolicy) (descriptors : List Descriptor) :
    Except AssemblyError Registry :=
  match (empty service policy).insertAll descriptors with
  | (registry, .ok ()) => .ok registry
  | (_, .error conflict) => .error conflict

end Registry

/-!
The descriptors that can be reached from one descriptor. The walk goes depth
first and expands each name once: the names already visited, the start among
them, end every chain that leads back to them.
-/

namespace Registry

def unvisited (registry : Registry) (visited : List String) : Nat :=
  (registry.descriptors.filter (·.name ∉ visited)).length

theorem unvisited_lt {registry : Registry} {visited : List String} {descriptor : Descriptor}
    (registered : descriptor ∈ registry.descriptors) (fresh : descriptor.name ∉ visited) :
    registry.unvisited (descriptor.name :: visited) < registry.unvisited visited := by
  have narrowed :
      registry.descriptors.filter (·.name ∉ descriptor.name :: visited) =
        (registry.descriptors.filter (·.name ∉ visited)).filter (·.name ≠ descriptor.name) := by
    simp [List.filter_filter]
  unfold unvisited
  rw [narrowed, List.length_filter_lt_length_iff_exists]
  exact ⟨descriptor, by simp [registered, fresh], by simp⟩

theorem mem_of_find? {registry : Registry} {name : String} {descriptor : Descriptor}
    (known : registry.find? name = some descriptor) :
    descriptor ∈ registry.descriptors ∧ descriptor.name = name :=
  ⟨List.mem_of_find?_eq_some known, by simpa using List.find?_some known⟩

set_option linter.unusedVariables false in
/-- Expands the pending names, each with the descriptor that refers to it, and
collects what they name in name order. -/
def walk (registry : Registry) (visited : List String) (found : List Descriptor) :
    List (String × String) → Except AssemblyError (List Descriptor)
  | [] => .ok found
  | (name, parent) :: rest =>
      if name ∈ visited then walk registry visited found rest
      else
        match known : registry.find? name with
        | none => .error (.unresolvedReference registry.service name parent)
        | some descriptor =>
            let seen := descriptor.name :: visited
            -- A name may be pending twice; only its first visit expands it.
            let next := (descriptor.children.filter (· ∉ seen)).map (·, name)
            walk registry seen (Sorted.insert Descriptor.order descriptor found) (next ++ rest)
termination_by pending => (registry.unvisited visited, pending.length)
decreasing_by
  · exact Prod.Lex.right _ (Nat.lt_succ_self _)
  · rename_i fresh
    obtain ⟨registered, same⟩ := mem_of_find? known
    exact Prod.Lex.left _ _ (unvisited_lt registered (same ▸ fresh))

def reachable (registry : Registry) (root : Descriptor) :
    Except AssemblyError (List Descriptor) :=
  let root := root.resolve
  match registry.checkRegistered root with
  | .error conflict => .error conflict
  | .ok () => registry.walk [root.name] [] (root.children.map (·, root.name))

end Registry

end ServiceStubs
