import ServiceStubs.Component
import ServiceStubs.Registry
/-!
The type definitions of a service: every descriptor that its components expose
or that follows from those, once each and in name order, together with how each
is spelled. What a component refers to itself is spelled directly; what is only
reached through another descriptor is a forward reference.
-/

namespace ServiceStubs

structure Flattened where
  descriptors : List Descriptor := []
  presentation : PresentationTable := {}
deriving Inhabited

namespace Flattened

def names (flattened : Flattened) : List String :=
  flattened.descriptors.map (·.name)

def get? (flattened : Flattened) (name : String) : Option Descriptor :=
  flattened.descriptors.find? (·.name == name)

/-- The state of the search. `pending` has the descriptors whose children are
still to be looked up, the one found last in front; `found` has every descriptor
found so far. -/
structure Work where
  pending : List Descriptor := []
  found : List Descriptor := []
  presentation : PresentationTable := {}

namespace Work

def foundNames (work : Work) : List String :=
  work.found.map (·.name)

def push (work : Work) (descriptor : Descriptor) (mode : Presentation) : Work :=
  { pending := descriptor :: work.pending
    found := descriptor :: work.found
    presentation := work.presentation.set descriptor.name mode }

def last? (work : Work) (name : String) : Option Descriptor :=
  match work.found with
  | last :: _ => if last.name = name then some last else none
  | [] => none

/-- Takes a root in. A root of the name that was kept last, and a root whose
name is registered, are held against the duplicate policy; the first is kept. -/
def accept (registry : Registry) (work : Work) (root : Descriptor) : Except AssemblyError Work :=
  let root := root.resolve
  match work.last? root.name with
  | some first =>
      match registry.checkDuplicate first root with
      | .ok () => .ok work
      | .error conflict => .error conflict
  | none =>
      match registry.checkRegistered root with
      | .ok () => .ok (work.push root .direct)
      | .error conflict => .error conflict

def acceptAll (registry : Registry) : List Descriptor → Work → Except AssemblyError Work
  | [], work => .ok work
  | root :: rest, work =>
      match work.accept registry root with
      | .ok grown => acceptAll registry rest grown
      | .error conflict => .error conflict

def discover (registry : Registry) (parent : String) :
    List String → Work → Except AssemblyError Work
  | [], work => .ok work
  | child :: rest, work =>
      if child ∈ work.foundNames then discover registry parent rest work
      else
        match registry.find? child with
        | some descriptor => discover registry parent rest (work.push descriptor .forwardRef)
        | none => .error (.unresolvedReference registry.service child parent)

/-- Bounds the steps left: a descriptor is pending at most once, and it becomes
pending when it is first found. -/
def remaining (registry : Registry) (work : Work) : Nat :=
  work.pending.length + registry.unvisited work.foundNames

theorem remaining_discover {registry : Registry} {parent : String} {children : List String}
    {work grown : Work} (found : discover registry parent children work = .ok grown) :
    grown.remaining registry ≤ work.remaining registry := by
  induction children generalizing work with
  | nil =>
      cases found
      exact Nat.le_refl _
  | cons child rest ih =>
      unfold discover at found
      split at found
      · exact ih found
      · rename_i fresh
        split at found
        · rename_i descriptor known
          obtain ⟨registered, same⟩ := Registry.mem_of_find? known
          have fewer := Registry.unvisited_lt registered (same ▸ fresh)
          have step := ih found
          simp only [remaining, push, foundNames, List.length_cons, List.map_cons] at step fewer ⊢
          omega
        · cases found

set_option linter.unusedVariables false in
def explore (registry : Registry) (work : Work) : Except AssemblyError Work :=
  match pending : work.pending with
  | [] => .ok work
  | next :: rest =>
      match found : discover registry next.name next.children { work with pending := rest } with
      | .error unresolved => .error unresolved
      | .ok grown => explore registry grown
termination_by work.remaining registry
decreasing_by
  -- Only descriptors found for the first time become pending again.
  have fewer := remaining_discover found
  simp only [remaining, foundNames, pending, List.length_cons] at fewer ⊢
  omega

def finish (work : Work) : Flattened :=
  { descriptors := Sorted.sort Descriptor.order work.found.reverse
    presentation := work.presentation }

end Work

def ofRoots (registry : Registry) (roots : List Descriptor) : Except AssemblyError Flattened :=
  match Work.acceptAll registry (Sorted.sort Descriptor.order roots) {} with
  | .error conflict => .error conflict
  | .ok work =>
      match work.explore registry with
      | .error unresolved => .error unresolved
      | .ok complete => .ok complete.finish

def exposed (components : List ClassOutline) : List (String × String) :=
  let referrals := components.flatMap fun component =>
    component.types.filterMap fun
      | .ref name => some (name, component.name)
      | _ => none
  -- The last one put in under a name is kept, hence the reversal.
  Sorted.ofList (fun a b => compare a.1 b.1) referrals.reverse

def lookUpAll (registry : Registry) : List (String × String) →
    Except AssemblyError (List Descriptor)
  | [] => .ok []
  | (name, component) :: rest =>
      match registry.get name component with
      | .error unresolved => .error unresolved
      | .ok descriptor =>
          match lookUpAll registry rest with
          | .error unresolved => .error unresolved
          | .ok others => .ok (descriptor :: others)

def ofComponents (registry : Registry) (components : List ClassOutline) :
    Except AssemblyError Flattened :=
  match lookUpAll registry (exposed components) with
  | .error unresolved => .error unresolved
  | .ok roots => ofRoots registry roots

end Flattened

end ServiceStubs
