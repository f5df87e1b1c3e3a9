import Mathlib.Data.List.Forall2
import ServiceStubs.Proofs.Flattened
/-!
Two searches in step. Where two registries say the same about every name a
search can come to, searches that start alike take up the same names in the
same order. So they fail with the same error or end with alike definitions.
What counts as alike is a parameter: descriptors may be the same, or only have
the same name and fields.
-/

namespace ServiceStubs

universe u v

def SameOutcome {ε : Type u} {α : Type v} (alike : α → α → Prop) : Except ε α → Except ε α → Prop
  | .ok left, .ok right => alike left right
  | .error left, .error right => left = right
  | _, _ => False

open Relator

section SameOutcome
variable {ε : Type u} {α : Type v} {alike : α → α → Prop} {left right : Except ε α}

theorem SameOutcome.mono {other : α → α → Prop} (implies : ∀ a b, alike a b → other a b)
    (same : SameOutcome alike left right) : SameOutcome other left right := by
  cases left <;> cases right
  case ok.ok a b => exact implies a b same
  all_goals exact same

theorem SameOutcome.eq (same : SameOutcome Eq left right) : left = right := by
  cases left <;> cases right
  case ok.ok a b => exact congrArg Except.ok same
  case error.error a b => exact congrArg Except.error same
  all_goals exact same.elim

theorem SameOutcome.of_error {failure : ε} (same : SameOutcome alike (.error failure) right) :
    right = .error failure := by
  cases right with
  | error other => exact congrArg Except.error (Eq.symm same)
  | ok result => exact same.elim

theorem SameOutcome.of_ok {result : α} (same : SameOutcome alike (.ok result) right) :
    ∃ twin, right = .ok twin ∧ alike result twin := by
  cases right with
  | error failure => exact same.elim
  | ok twin => exact ⟨twin, rfl, same⟩

theorem exists_ok_of_isSome (succeeds : left.toOption.isSome) : ∃ result, left = .ok result := by
  cases left with
  | error failure => cases succeeds
  | ok result => exact ⟨result, rfl⟩

end SameOutcome

/-- Lists that are alike are sorted alike, as the sorting only compares. -/
theorem Sorted.forall₂_sort {α : Type u} {order : α → α → Ordering} {alike : α → α → Prop}
    (ordered : ∀ a b c d, alike a b → alike c d → order a c = order b d) {xs ys : List α}
    (all : List.Forall₂ alike xs ys) : List.Forall₂ alike (sort order xs) (sort order ys) := by
  obtain ⟨length, related⟩ := List.forall₂_iff_zip.1 all
  let pairs := (xs.zip ys).mergeSort fun first second => order first.1 second.1 != .gt
  have firsts : pairs.map Prod.fst = sort order xs := by
    rw [List.map_mergeSort (s := fun a b => order a b != .gt) fun _ _ _ _ => rfl,
      List.map_fst_zip (Nat.le_of_eq length)]
    rfl
  have seconds : pairs.map Prod.snd = sort order ys := by
    rw [List.map_mergeSort (s := fun a b => order a b != .gt) ?_,
      List.map_snd_zip (Nat.le_of_eq length.symm)]
    · rfl
    · intro first member second member'
      rw [ordered _ _ _ _ (related member) (related member')]
  rw [← firsts, ← seconds, List.forall₂_map_left_iff, List.forall₂_map_right_iff]
  exact List.forall₂_same.2 fun pair member => related (List.mem_mergeSort.1 member)

theorem forall₂_key_iff {α : Type u} {β : Type v} {key : α → β} {xs ys : List α} :
    List.Forall₂ (fun a b => key a = key b) xs ys ↔ xs.map key = ys.map key := by
  rw [← List.forall₂_eq_eq_eq, List.forall₂_map_left_iff, List.forall₂_map_right_iff]

namespace Descriptor

structure Likeness (alike : Descriptor → Descriptor → Prop) : Prop where
  refl : ∀ descriptor, alike descriptor descriptor
  layout_eq : ∀ {a b}, alike a b → a.layout = b.layout

theorem likeness_eq : Likeness Eq :=
  ⟨fun _ => rfl, fun same => congrArg layout same⟩

theorem likeness_layout : Likeness fun a b => a.layout = b.layout :=
  ⟨fun _ => rfl, fun same => same⟩

end Descriptor

/-- Both registries say the same about the names in `within`, which has all that follows from
these. The second registry drops every duplicate that the first one drops. -/
structure Registry.Matching (within : String → Prop) (left right : Registry) : Prop where
  service_eq : left.service = right.service
  find?_eq : ∀ name, within name → left.find? name = right.find? name
  child : ∀ name descriptor, within name → left.find? name = some descriptor →
    ∀ child ∈ descriptor.children, within child
  lenient : ∀ first duplicate, left.checkDuplicate first duplicate = .ok () →
    right.checkDuplicate first duplicate = .ok ()

namespace Flattened

namespace Work

structure InStep (within : String → Prop) (alike : Descriptor → Descriptor → Prop)
    (left right : Work) : Prop where
  pending : List.Forall₂ alike left.pending right.pending
  found : List.Forall₂ alike left.found right.found
  presentation_eq : left.presentation = right.presentation
  inside : ∀ descriptor ∈ left.pending, ∀ child ∈ descriptor.children, within child

variable {within : String → Prop} {alike : Descriptor → Descriptor → Prop} {left right : Work}

theorem InStep.foundNames_eq (likeness : Descriptor.Likeness alike)
    (inStep : InStep within alike left right) : left.foundNames = right.foundNames := by
  apply forall₂_key_iff.1
  exact inStep.found.imp fun _ _ same => Descriptor.name_of_layout (likeness.layout_eq same)

theorem InStep.push (inStep : InStep within alike left right) {a b : Descriptor}
    (same : alike a b) (name : a.name = b.name) (inside : ∀ child ∈ a.children, within child)
    (mode : Presentation) : InStep within alike (left.push a mode) (right.push b mode) where
  pending := .cons same inStep.pending
  found := .cons same inStep.found
  presentation_eq := by
    simp only [Work.push, inStep.presentation_eq, name]
  inside := by
    intro descriptor member
    rcases List.mem_cons.1 member with rfl | earlier
    · exact inside
    · exact inStep.inside descriptor earlier

theorem InStep.take (inStep : InStep within alike left right) {next : Descriptor}
    {rest : List Descriptor} (pending : left.pending = next :: rest) :
    ∃ twin others, right.pending = twin :: others ∧ alike next twin ∧
      InStep within alike { left with pending := rest } { right with pending := others } := by
  have both := inStep.pending
  rw [pending] at both
  obtain ⟨twin, others, same, later, opposite⟩ := List.forall₂_cons_left_iff.1 both
  refine ⟨twin, others, opposite, same, later, inStep.found, inStep.presentation_eq, ?_⟩
  intro descriptor member
  exact inStep.inside descriptor (pending ▸ List.mem_cons_of_mem next member)

theorem explore_of_done {registry : Registry} {work : Work} (done : work.pending = []) :
    explore registry work = .ok work := by
  unfold explore
  split
  · rfl
  · rename_i next rest pending
    rw [done] at pending
    cases pending

theorem explore_of_pending {registry : Registry} {work : Work} {next : Descriptor}
    {rest : List Descriptor} (pending : work.pending = next :: rest) :
    explore registry work =
      match discover registry next.name next.children { work with pending := rest } with
      | .error unresolved => .error unresolved
      | .ok grown => explore registry grown := by
  rw [explore]
  split
  · rename_i done
    rw [pending] at done
    cases done
  · rename_i other others waiting
    rw [pending] at waiting
    cases waiting
    split <;> simp_all

section Search
variable {known other : Registry} (matching : Registry.Matching within known other)
  (likeness : Descriptor.Likeness alike)
include matching likeness

theorem discover_inStep (parent : String) {children : List String}
    (inside : ∀ child ∈ children, within child) (inStep : InStep within alike left right) :
    SameOutcome (InStep within alike) (discover known parent children left)
      (discover other parent children right) := by
  induction children generalizing left right with
  | nil => exact inStep
  | cons child rest ih =>
      have insideRest : ∀ later ∈ rest, within later :=
        fun later member => inside later (List.mem_cons_of_mem child member)
      have childInside : within child := inside child List.mem_cons_self
      simp only [discover, ← inStep.foundNames_eq likeness, ← matching.find?_eq child childInside]
      by_cases found : child ∈ left.foundNames
      · simp only [found, if_true]
        exact ih insideRest inStep
      · simp only [found, if_false]
        cases stands : known.find? child with
        | none => simp only [SameOutcome, matching.service_eq]
        | some descriptor =>
            have deeper := matching.child child descriptor childInside stands
            exact ih insideRest (inStep.push (likeness.refl descriptor) rfl deeper .forwardRef)

theorem discover_next_inStep (inStep : InStep within alike left right) {next : Descriptor}
    {rest : List Descriptor} (pending : left.pending = next :: rest) :
    ∃ twin others, right.pending = twin :: others ∧
      SameOutcome (InStep within alike)
        (discover known next.name next.children { left with pending := rest })
        (discover other twin.name twin.children { right with pending := others }) := by
  obtain ⟨twin, others, opposite, same, taken⟩ := inStep.take pending
  have layout := likeness.layout_eq same
  have inside := inStep.inside next (pending ▸ List.mem_cons_self)
  refine ⟨twin, others, opposite, ?_⟩
  rw [← Descriptor.name_of_layout layout, ← Descriptor.children_of_layout layout]
  exact discover_inStep matching likeness next.name inside taken

theorem explore_inStep (inStep : InStep within alike left right) :
    SameOutcome (InStep within alike) (explore known left) (explore other right) := by
  -- Along the first search: the second one has as much pending, and each step comes out alike.
  fun_induction explore known left generalizing right with
  | case1 left done =>
      have both := inStep.pending
      rw [done] at both
      have opposite : right.pending = [] := List.forall₂_nil_left_iff.1 both
      rw [explore_of_done opposite]
      exact inStep
  | case2 left next rest pending unresolved failed =>
      obtain ⟨twin, others, opposite, step⟩ := discover_next_inStep matching likeness inStep pending
      rw [failed] at step
      rw [explore_of_pending opposite, step.of_error]
      rfl
  | case3 left next rest pending grown found ih =>
      obtain ⟨twin, others, opposite, step⟩ := discover_next_inStep matching likeness inStep pending
      rw [found] at step
      obtain ⟨twinGrown, twinFound, grownInStep⟩ := step.of_ok
      rw [explore_of_pending opposite, twinFound]
      exact ih grownInStep

end Search

section Accept
variable {known other : Registry} {roots : List Descriptor}

theorem accept_of_matching (matching : Registry.Matching within known other) {work grown : Work}
    {root : Descriptor} (inside : within root.name)
    (accepted : accept known work root = .ok grown) : accept other work root = .ok grown := by
  rcases accept_cases accepted with ⟨first, earlier, agrees, rfl⟩ | ⟨absent, agrees, rfl⟩
  · simp only [accept, Descriptor.name_resolve, earlier, matching.lenient first root.resolve agrees]
  · have passes : other.checkRegistered root.resolve = .ok () := by
      have sameName := matching.find?_eq root.resolve.name inside
      simp only [Registry.checkRegistered, ← sameName] at agrees ⊢
      cases stands : known.find? root.resolve.name with
      | none => rfl
      | some registered =>
          simp only [stands] at agrees
          exact matching.lenient registered root.resolve agrees
    simp only [accept, Descriptor.name_resolve, absent, passes]

theorem acceptAll_of_matching (matching : Registry.Matching within known other)
    (inside : ∀ root ∈ roots, within root.name) {work grown : Work}
    (accepted : acceptAll known roots work = .ok grown) :
    acceptAll other roots work = .ok grown := by
  induction roots generalizing work with
  | nil => exact accepted
  | cons root rest ih =>
      unfold acceptAll at accepted ⊢
      cases taken : accept known work root with
      | error conflict =>
          rw [taken] at accepted
          cases accepted
      | ok next =>
          rw [taken] at accepted
          rw [accept_of_matching matching (inside root List.mem_cons_self) taken]
          exact ih (fun later member => inside later (List.mem_cons_of_mem root member)) accepted

end Accept

end Work

def Alike (alike : Descriptor → Descriptor → Prop) (left right : Flattened) : Prop :=
  List.Forall₂ alike left.descriptors right.descriptors ∧ left.presentation = right.presentation

section Matching
variable {within : String → Prop} {known other : Registry}
  (matching : Registry.Matching within known other)
include matching

theorem ofRoots_inStep {alike : Descriptor → Descriptor → Prop}
    (likeness : Descriptor.Likeness alike) {roots others : List Descriptor}
    (started : SameOutcome (Work.InStep within alike)
      (Work.acceptAll known (Sorted.sort Descriptor.order roots) {})
      (Work.acceptAll other (Sorted.sort Descriptor.order others) {})) :
    SameOutcome (Alike alike) (ofRoots known roots) (ofRoots other others) := by
  cases accepted : Work.acceptAll known (Sorted.sort Descriptor.order roots) {} with
  | error conflict =>
      rw [accepted] at started
      simp only [ofRoots, accepted, started.of_error]
      rfl
  | ok work =>
      rw [accepted] at started
      obtain ⟨twin, twinAccepted, inStep⟩ := started.of_ok
      have ends := Work.explore_inStep matching likeness inStep
      cases ended : work.explore known with
      | error unresolved =>
          rw [ended] at ends
          simp only [ofRoots, accepted, twinAccepted, ended, ends.of_error]
          rfl
      | ok complete =>
          rw [ended] at ends
          obtain ⟨twinComplete, twinEnded, alikeEnds⟩ := ends.of_ok
          simp only [ofRoots, accepted, twinAccepted, ended, twinEnded]
          refine ⟨Sorted.forall₂_sort ?_ (List.forall₂_reverse_iff.2 alikeEnds.found),
            alikeEnds.presentation_eq⟩
          intro a b c d first second
          have firstName := Descriptor.name_of_layout (likeness.layout_eq first)
          have secondName := Descriptor.name_of_layout (likeness.layout_eq second)
          simp only [Descriptor.order, firstName, secondName]

/-- A search over matching registries comes to the same once its roots are taken in. -/
theorem ofRoots_eq {roots : List Descriptor} {work : Work}
    (accepted : Work.acceptAll known (Sorted.sort Descriptor.order roots) {} = .ok work)
    (inside : ∀ root ∈ roots, within root.name ∧ ∀ child ∈ root.children, within child) :
    ofRoots known roots = ofRoots other roots := by
  have sorted : ∀ root ∈ Sorted.sort Descriptor.order roots,
      within root.name ∧ ∀ child ∈ root.children, within child :=
    fun root member => inside root (Sorted.mem_sort.1 member)
  have twinAccepted : Work.acceptAll other (Sorted.sort Descriptor.order roots) {} = .ok work :=
    Work.acceptAll_of_matching matching (fun root member => (sorted root member).1) accepted
  have taken := Work.taken_of_acceptAll accepted
  have inStep : Work.InStep within Eq work work := by
    refine ⟨List.forall₂_same.2 fun _ _ => rfl, List.forall₂_same.2 fun _ _ => rfl, rfl, ?_⟩
    intro descriptor pending
    obtain ⟨root, member, rfl⟩ := taken.root_of_mem (taken.pending_eq ▸ pending)
    rw [Descriptor.children_resolve]
    exact (sorted root member).2
  have same : SameOutcome (Alike Eq) (ofRoots known roots) (ofRoots other roots) := by
    apply ofRoots_inStep matching Descriptor.likeness_eq
    rw [accepted, twinAccepted]
    exact inStep
  refine (same.mono ?_).eq
  rintro ⟨descriptors, presentation⟩ ⟨others, otherPresentation⟩ ⟨listed, presented⟩
  rw [List.forall₂_eq_eq_eq] at listed
  cases listed
  cases presented
  rfl

theorem lookUpAll_eq {referrals : List (String × String)}
    (inside : ∀ referral ∈ referrals, within referral.1) :
    lookUpAll known referrals = lookUpAll other referrals := by
  induction referrals with
  | nil => rfl
  | cons referral rest ih =>
      have here := matching.find?_eq referral.1 (inside referral List.mem_cons_self)
      have later := ih fun referral member => inside referral (List.mem_cons_of_mem _ member)
      simp only [lookUpAll, Registry.get, here, later, matching.service_eq]

/-- Flattening components only depends on what the registry says about the names reached from
them. -/
theorem ofComponents_eq {components : List ClassOutline}
    (inside : ∀ name, Exposes components name → within name) :
    ofComponents known components = ofComponents other components := by
  have exposedInside : ∀ referral ∈ exposed components, within referral.1 :=
    fun referral member => inside _ (mem_exposed.1 (List.mem_map.2 ⟨referral, member, rfl⟩))
  have looked := lookUpAll_spec known (exposed components)
  unfold ofComponents
  rw [← lookUpAll_eq matching exposedInside]
  cases ended : lookUpAll known (exposed components) with
  | error unresolved => rfl
  | ok roots =>
      rw [ended] at looked
      obtain ⟨names, registered⟩ := looked
      obtain ⟨work, accepted, -⟩ := Work.exists_taken registered
      refine ofRoots_eq matching accepted fun root member => ?_
      have named : root.name ∈ (exposed components).map Prod.fst :=
        names ▸ List.mem_map.2 ⟨root, member, rfl⟩
      have rootInside := inside root.name (mem_exposed.1 named)
      exact ⟨rootInside, matching.child root.name root rootInside (registered root member)⟩

end Matching

end Flattened

end ServiceStubs
