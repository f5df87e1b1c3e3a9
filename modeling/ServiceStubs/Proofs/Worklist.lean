import ServiceStubs.Flattened
import ServiceStubs.Proofs.Registry
import ServiceStubs.Proofs.TypeExpr
/-!
The search for type definitions, step by step. A descriptor is marked as found
before it becomes pending, so whatever was found and is not pending any more
has all its children found. When nothing is pending the names found are
exactly the names reached; when the search fails, a reached descriptor has a
child that stands for nothing. The definitions are then what the names found
stand for, in name order.
-/

namespace ServiceStubs

namespace Flattened.Work
variable {registry : Registry}

theorem mem_foundNames {work : Work} {descriptor : Descriptor} (found : descriptor ∈ work.found) :
    descriptor.name ∈ work.foundNames :=
  List.mem_map.2 ⟨descriptor, found, rfl⟩

structure Started (work : Work) : Prop where
  pending_eq : work.pending = work.found
  distinct : work.foundNames.Nodup
  presents : work.presentation.Presents (fun _ => True) work.foundNames

theorem started_empty : Started {} :=
  ⟨rfl, List.nodup_nil, PresentationTable.Presents.nothing⟩

theorem Started.push {work : Work} (started : Started work) {root : Descriptor}
    (fresh : root.name ∉ work.foundNames) : Started (work.push root .direct) := by
  refine ⟨?_, ?_, ?_⟩
  · exact congrArg (root :: ·) started.pending_eq
  · exact List.nodup_cons.2 ⟨fresh, started.distinct⟩
  · exact started.presents.set fresh (by simp)

/-- What holds of the search between two steps. `roots` are the descriptors it started from;
the descriptors that `busy` holds of are being expanded. -/
structure Sound (registry : Registry) (roots : List Descriptor) (busy : Descriptor → Prop)
    (work : Work) : Prop where
  roots_found : ∀ root ∈ roots, root ∈ work.found
  distinct : work.foundNames.Nodup
  standing : ∀ descriptor ∈ work.found, registry.standing roots descriptor.name = some descriptor
  reached : ∀ descriptor ∈ work.found, registry.ReachedFrom roots descriptor.name
  pending_found : ∀ descriptor ∈ work.pending, descriptor ∈ work.found
  expanded : ∀ descriptor ∈ work.found, descriptor ∈ work.pending ∨ busy descriptor ∨
    ∀ child ∈ descriptor.children, child ∈ work.foundNames
  presents : work.presentation.Presents (· ∈ roots.map (·.name)) work.foundNames

theorem Started.sound {work : Work} (started : Started work) :
    Sound registry work.found (fun _ => False) work where
  roots_found := fun _ member => member
  distinct := started.distinct
  standing := fun _ member => Registry.standing_of_mem started.distinct member
  reached := fun _ member => Reached.start (mem_foundNames member)
  pending_found := fun _ member => started.pending_eq ▸ member
  expanded := fun _ member => Or.inl (started.pending_eq ▸ member)
  presents := started.presents.congr (fun _ => Iff.rfl) fun _ member => by
    exact iff_true_intro member

namespace Sound
variable {roots : List Descriptor} {busy : Descriptor → Prop} {work : Work}

theorem not_root (sound : Sound registry roots busy work) {name : String}
    (fresh : name ∉ work.foundNames) : name ∉ roots.map (·.name) := by
  intro member
  obtain ⟨root, given, rfl⟩ := List.mem_map.1 member
  exact fresh (mem_foundNames (sound.roots_found root given))

theorem push (sound : Sound registry roots busy work) {descriptor : Descriptor}
    (known : registry.find? descriptor.name = some descriptor)
    (fresh : descriptor.name ∉ work.foundNames)
    (reached : registry.ReachedFrom roots descriptor.name) :
    Sound registry roots busy (work.push descriptor .forwardRef) where
  roots_found := fun root given => List.mem_cons_of_mem _ (sound.roots_found root given)
  distinct := List.nodup_cons.2 ⟨fresh, sound.distinct⟩
  standing := by
    intro other member
    rcases List.mem_cons.1 member with rfl | earlier
    · exact (Registry.standing_of_not_mem (sound.not_root fresh)).trans known
    · exact sound.standing other earlier
  reached := by
    intro other member
    rcases List.mem_cons.1 member with rfl | earlier
    · exact reached
    · exact sound.reached other earlier
  pending_found := by
    intro other member
    rcases List.mem_cons.1 member with rfl | earlier
    · exact List.mem_cons_self
    · exact List.mem_cons_of_mem _ (sound.pending_found other earlier)
  expanded := by
    intro other member
    rcases List.mem_cons.1 member with rfl | earlier
    · exact Or.inl List.mem_cons_self
    · rcases sound.expanded other earlier with pending | open_ | complete
      · exact Or.inl (List.mem_cons_of_mem _ pending)
      · exact Or.inr (Or.inl open_)
      · exact Or.inr (Or.inr fun child listed => List.mem_cons_of_mem _ (complete child listed))
  presents := by
    refine sound.presents.set fresh (iff_of_false ?_ (sound.not_root fresh))
    intro direct
    cases direct

theorem take (sound : Sound registry roots (fun _ => False) work) {next : Descriptor}
    {rest : List Descriptor} (pending : work.pending = next :: rest) :
    Sound registry roots (· = next) { work with pending := rest } where
  roots_found := sound.roots_found
  distinct := sound.distinct
  standing := sound.standing
  reached := sound.reached
  pending_found := fun descriptor later =>
    sound.pending_found descriptor (pending ▸ List.mem_cons_of_mem next later)
  expanded := by
    intro descriptor found
    rcases sound.expanded descriptor found with waiting | impossible | complete
    · rw [pending] at waiting
      rcases List.mem_cons.1 waiting with same | later
      · exact Or.inr (Or.inl same)
      · exact Or.inl later
    · exact impossible.elim
    · exact Or.inr (Or.inr complete)
  presents := sound.presents

theorem settle {next : Descriptor} (sound : Sound registry roots (· = next) work)
    (complete : ∀ child ∈ next.children, child ∈ work.foundNames) :
    Sound registry roots (fun _ => False) work where
  roots_found := sound.roots_found
  distinct := sound.distinct
  standing := sound.standing
  reached := sound.reached
  pending_found := sound.pending_found
  expanded := by
    intro descriptor found
    rcases sound.expanded descriptor found with pending | rfl | already
    · exact Or.inl pending
    · exact Or.inr (Or.inr complete)
    · exact Or.inr (Or.inr already)
  presents := sound.presents

/-- When nothing is pending the names found are the names reached. -/
theorem mem_foundNames_iff (sound : Sound registry roots (fun _ => False) work)
    (done : work.pending = []) {name : String} :
    name ∈ work.foundNames ↔ registry.ReachedFrom roots name := by
  constructor
  · intro member
    obtain ⟨descriptor, found, rfl⟩ := List.mem_map.1 member
    exact sound.reached descriptor found
  · -- Nothing is pending or busy, so the names found are closed under children.
    apply Reached.mem_of_closed
    · intro root member
      obtain ⟨descriptor, given, rfl⟩ := List.mem_map.1 member
      exact mem_foundNames (sound.roots_found descriptor given)
    · intro parent descriptor member stands
      obtain ⟨found, listed, rfl⟩ := List.mem_map.1 member
      obtain rfl : found = descriptor :=
        Option.some.inj ((sound.standing found listed).symm.trans stands)
      rcases sound.expanded found listed with pending | impossible | complete
      · rw [done] at pending
        cases pending
      · exact impossible.elim
      · exact complete

end Sound

/-- What looking up `children` comes to: either all of them are found and what had been found
stays found, or one of them stands for nothing. -/
def Discovered (registry : Registry) (roots : List Descriptor) (busy : Descriptor → Prop)
    (parent : String) (children : List String) (work : Work) : Except AssemblyError Work → Prop
  | .ok grown => Sound registry roots busy grown ∧
      (∀ name ∈ work.foundNames, name ∈ grown.foundNames) ∧
      ∀ child ∈ children, child ∈ grown.foundNames
  | .error unresolved => ∃ child ∈ children, registry.standing roots child = none ∧
      unresolved = .unresolvedReference registry.service child parent

section Discover
variable {roots : List Descriptor} {busy : Descriptor → Prop} {parent : String}

theorem Discovered.cons {work next : Work} {child : String} {rest : List String}
    {result : Except AssemblyError Work} (kept : ∀ name ∈ work.foundNames, name ∈ next.foundNames)
    (found : child ∈ next.foundNames)
    (tail : Discovered registry roots busy parent rest next result) :
    Discovered registry roots busy parent (child :: rest) work result := by
  cases result with
  | ok grown =>
      obtain ⟨sound, grows, complete⟩ := tail
      refine ⟨sound, fun name member => grows name (kept name member), fun other member => ?_⟩
      rcases List.mem_cons.1 member with rfl | later
      · exact grows other found
      · exact complete other later
  | error unresolved =>
      obtain ⟨missing, member, absent, reported⟩ := tail
      exact ⟨missing, List.mem_cons_of_mem child member, absent, reported⟩

theorem discover_spec {work : Work} {children : List String}
    (sound : Sound registry roots busy work)
    (reached : ∀ child ∈ children, registry.ReachedFrom roots child) :
    Discovered registry roots busy parent children work
      (discover registry parent children work) := by
  induction children generalizing work with
  | nil => exact ⟨sound, fun _ member => member, by simp⟩
  | cons child rest ih =>
      have reachedRest : ∀ later ∈ rest, registry.ReachedFrom roots later :=
        fun later member => reached later (List.mem_cons_of_mem child member)
      unfold discover
      split
      · rename_i known
        exact Discovered.cons (fun _ member => member) known (ih sound reachedRest)
      · rename_i fresh
        split
        · rename_i descriptor known
          obtain rfl := Registry.name_of_find? known
          have grown := sound.push known fresh (reached _ List.mem_cons_self)
          refine Discovered.cons (fun name member => ?_) ?_ (ih grown reachedRest)
          · exact List.mem_cons_of_mem _ member
          · exact List.mem_cons_self
        · rename_i unknown
          refine ⟨child, List.mem_cons_self, ?_, rfl⟩
          exact (Registry.standing_of_not_mem (sound.not_root fresh)).trans unknown

theorem Sound.discover_next {work : Work} (sound : Sound registry roots (fun _ => False) work)
    {next : Descriptor} {rest : List Descriptor} (pending : work.pending = next :: rest) :
    Discovered registry roots (· = next) next.name next.children { work with pending := rest }
      (discover registry next.name next.children { work with pending := rest }) := by
  have found := sound.pending_found next (pending ▸ List.mem_cons_self)
  apply discover_spec (sound.take pending)
  intro child member
  exact Reached.child (sound.reached next found) (sound.standing next found) member

end Discover

def Explored (registry : Registry) (roots : List Descriptor) : Except AssemblyError Work → Prop
  | .ok complete => Sound registry roots (fun _ => False) complete ∧ complete.pending = []
  | .error unresolved => Unresolved registry.service (registry.standing roots)
      (· ∈ roots.map (·.name)) unresolved

theorem explore_spec {roots : List Descriptor} {work : Work}
    (sound : Sound registry roots (fun _ => False) work) :
    Explored registry roots (explore registry work) := by
  -- Along the search itself: a step takes one descriptor up and settles it, or fails for good.
  fun_induction explore registry work with
  | case1 work done => exact ⟨sound, done⟩
  | case2 work next rest pending unresolved failed =>
      have looked := sound.discover_next pending
      rw [failed] at looked
      obtain ⟨child, member, absent, reported⟩ := looked
      have found := sound.pending_found next (pending ▸ List.mem_cons_self)
      exact ⟨next.name, next, child, sound.reached next found, sound.standing next found,
        member, absent, reported⟩
  | case3 work next rest pending grown found ih =>
      have looked := sound.discover_next pending
      rw [found] at looked
      obtain ⟨grownSound, _, complete⟩ := looked
      exact ih (grownSound.settle complete)

end Flattened.Work

/-! ## The definitions -/

namespace Flattened

/-- The definitions are what the names reached from `start` stand for, once each and in name
order. What the search starts from is presented directly, the rest as forward references. -/
structure Closure (lookUp : String → Option Descriptor) (start : String → Prop)
    (flattened : Flattened) : Prop where
  increasing : Sorted.Increasing Descriptor.order flattened.descriptors
  mem_names_iff : ∀ name, name ∈ flattened.names ↔ Reached lookUp start name
  standing : ∀ descriptor ∈ flattened.descriptors, lookUp descriptor.name = some descriptor
  presents : flattened.presentation.Presents start flattened.names

def Outcome (service : String) (lookUp : String → Option Descriptor) (start : String → Prop) :
    Except AssemblyError Flattened → Prop
  | .ok flattened => Closure lookUp start flattened
  | .error unresolved => Unresolved service lookUp start unresolved

section Outcome
variable {service : String} {lookUp : String → Option Descriptor} {start : String → Prop}

theorem Closure.mem_iff {flattened : Flattened} (closure : Closure lookUp start flattened)
    {descriptor : Descriptor} : descriptor ∈ flattened.descriptors ↔
      Reached lookUp start descriptor.name ∧ lookUp descriptor.name = some descriptor := by
  rw [← closure.mem_names_iff]
  constructor
  · intro member
    exact ⟨List.mem_map.2 ⟨descriptor, member, rfl⟩, closure.standing descriptor member⟩
  · rintro ⟨listed, stands⟩
    obtain ⟨found, member, same⟩ := List.mem_map.1 listed
    have foundStands := closure.standing found member
    rw [same, stands] at foundStands
    exact Option.some.inj foundStands ▸ member

/-- What a definition refers to is defined too. -/
theorem Closure.mem_names_of_reference {flattened : Flattened}
    (closure : Closure lookUp start flattened) {descriptor : Descriptor}
    (member : descriptor ∈ flattened.descriptors) (resolved : descriptor.IsResolved)
    {field : Field} (fieldOf : field ∈ descriptor.fields) {name : String}
    (occurs : name ∈ field.type.references) : name ∈ flattened.names := by
  -- A resolved descriptor does not refer to itself, so what it refers to is another one.
  have child : name ∈ descriptor.children :=
    Descriptor.mem_children.2 ⟨fun same => resolved field fieldOf (same ▸ occurs),
      field, fieldOf, occurs⟩
  have reached := (closure.mem_iff.1 member).1
  exact (closure.mem_names_iff name).2
    (Reached.child reached (closure.standing descriptor member) child)

theorem Outcome.ok_iff {result : Except AssemblyError Flattened}
    (outcome : Outcome service lookUp start result) :
    (∃ flattened, result = .ok flattened) ↔
      ∀ name, Reached lookUp start name → ∃ descriptor, lookUp name = some descriptor := by
  cases result with
  | ok flattened =>
      refine ⟨fun _ name reached => ?_, fun _ => ⟨flattened, rfl⟩⟩
      obtain ⟨descriptor, member, rfl⟩ := List.mem_map.1 ((outcome.mem_names_iff name).2 reached)
      exact ⟨descriptor, outcome.standing descriptor member⟩
  | error unresolved =>
      exact iff_of_false (fun ⟨_, impossible⟩ => nomatch impossible) outcome.not_complete

theorem Outcome.not_nameConflict {result : Except AssemblyError Flattened}
    (outcome : Outcome service lookUp start result) (conflicting name : String) :
    result ≠ .error (.nameConflict conflicting name) := by
  rintro rfl
  exact outcome.ne_nameConflict conflicting name rfl

end Outcome

namespace Work
variable {registry : Registry} {roots : List Descriptor} {work : Work}

theorem names_increasing {descriptors : List Descriptor}
    (increasing : Sorted.Increasing Descriptor.order descriptors) :
    Sorted.Increasing compare (descriptors.map (·.name)) :=
  List.pairwise_map.2 increasing

@[simp] theorem mem_finish {descriptor : Descriptor} :
    descriptor ∈ work.finish.descriptors ↔ descriptor ∈ work.found := by
  rw [finish, Sorted.mem_sort, List.mem_reverse]

/-- No two descriptors have the same name, so sorting leaves each before all later ones. -/
theorem increasing_finish (distinct : work.foundNames.Nodup) :
    Sorted.Increasing Descriptor.order work.finish.descriptors := by
  apply Sorted.increasing_sort
  rw [List.pairwise_reverse]
  apply (List.pairwise_map.1 distinct).imp
  intro earlier later apart same
  exact apart (Descriptor.order_eq_iff.1 same).symm

theorem Sound.finish_closure (sound : Sound registry roots (fun _ => False) work)
    (done : work.pending = []) :
    Closure (registry.standing roots) (· ∈ roots.map (·.name)) work.finish := by
  have names : ∀ name, name ∈ work.finish.names ↔ name ∈ work.foundNames := by
    intro name
    simp only [Flattened.names, foundNames, List.mem_map, mem_finish]
  refine ⟨increasing_finish sound.distinct, fun name => ?_, fun descriptor member => ?_, ?_⟩
  · exact (names name).trans (sound.mem_foundNames_iff done)
  · exact sound.standing descriptor (mem_finish.1 member)
  · exact sound.presents.congr names fun _ _ => Iff.rfl

end Work

theorem ofRoots_of_acceptAll {registry : Registry} {roots : List Descriptor} {work : Work}
    (accepted : Work.acceptAll registry (Sorted.sort Descriptor.order roots) {} = .ok work)
    (started : Work.Started work) :
    Outcome registry.service (registry.standing work.found) (· ∈ work.foundNames)
      (ofRoots registry roots) := by
  have explored : Work.Explored registry work.found (work.explore registry) :=
    Work.explore_spec started.sound
  cases ended : work.explore registry with
  | error unresolved =>
      rw [ended] at explored
      simp only [ofRoots, accepted, ended]
      exact explored
  | ok complete =>
      rw [ended] at explored
      simp only [ofRoots, accepted, ended]
      exact explored.1.finish_closure explored.2

theorem accepted_of_ofRoots {registry : Registry} {roots : List Descriptor}
    {flattened : Flattened}
    (succeeded : ofRoots registry roots = .ok flattened) :
    ∃ work, Work.acceptAll registry (Sorted.sort Descriptor.order roots) {} = .ok work := by
  cases accepted : Work.acceptAll registry (Sorted.sort Descriptor.order roots) {} with
  | ok work => exact ⟨work, rfl⟩
  | error conflict =>
      simp only [ofRoots, accepted] at succeeded
      cases succeeded

end Flattened

end ServiceStubs
