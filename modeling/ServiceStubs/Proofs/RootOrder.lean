import Mathlib.Data.List.Permutation
import ServiceStubs.Proofs.Flattened
import ServiceStubs.Proofs.InStep
/-!
Roots as a set. Under the strict policy a search only sees which names and
fields its roots have: the order in which they are given, how often each is
given and what their docstrings say makes no difference to the names and fields
of the definitions, to how these are presented, or to the error reported.
-/

namespace ServiceStubs

theorem Registry.matching_refl (registry : Registry) :
    Matching (fun _ => True) registry registry where
  service_eq := rfl
  find?_eq _ _ := rfl
  child _ _ _ _ _ _ := trivial
  lenient _ _ dropped := dropped

namespace Flattened

namespace Work
variable {registry : Registry} {roots others : List Descriptor} {work other : Work}

section Taken
variable (done : Taken registry roots work) (strict : registry.policy = .strict)
include done

theorem Taken.increasing_layouts :
    Sorted.Increasing (fun a b => compare a.1 b.1) (work.found.reverse.map Descriptor.layout) :=
  List.pairwise_map.2 (List.pairwise_reverse.2 done.decreasing)

include strict

theorem Taken.mem_layouts_iff (layout : String × List Field) :
    layout ∈ work.found.map Descriptor.layout ↔ ∃ root ∈ roots, root.resolve.layout = layout := by
  constructor
  · intro member
    obtain ⟨descriptor, found, rfl⟩ := List.mem_map.1 member
    obtain ⟨root, given, rfl⟩ := done.root_of_mem found
    exact ⟨root, given, rfl⟩
  · rintro ⟨root, given, rfl⟩
    obtain ⟨first, found, same⟩ := done.layout_of_root strict given
    exact List.mem_map.2 ⟨first, found, same⟩

/-- The roots of two lists with the same layouts are taken up in the same order. -/
theorem Taken.layouts_eq (twin : Taken registry others other)
    (same : ∀ layout, layout ∈ roots.map Descriptor.layout ↔
      layout ∈ others.map Descriptor.layout) :
    work.found.map Descriptor.layout = other.found.map Descriptor.layout := by
  have resolved : ∀ {left right : List Descriptor},
      (∀ layout, layout ∈ left.map Descriptor.layout → layout ∈ right.map Descriptor.layout) →
        ∀ layout, (∃ root ∈ left, root.resolve.layout = layout) →
          ∃ root ∈ right, root.resolve.layout = layout := by
    rintro left right covered layout ⟨root, given, rfl⟩
    obtain ⟨twinRoot, listed, alike⟩ :=
      List.mem_map.1 (covered root.layout (List.mem_map.2 ⟨root, given, rfl⟩))
    exact ⟨twinRoot, listed, Descriptor.resolve_layout alike⟩
  have members : ∀ layout, layout ∈ work.found.reverse.map Descriptor.layout ↔
      layout ∈ other.found.reverse.map Descriptor.layout := by
    intro layout
    rw [List.map_reverse, List.map_reverse, List.mem_reverse, List.mem_reverse,
      done.mem_layouts_iff strict, twin.mem_layouts_iff strict]
    exact ⟨resolved (fun layout => (same layout).1) layout,
      resolved (fun layout => (same layout).2) layout⟩
  have reversed := done.increasing_layouts.eq_of_mem_iff twin.increasing_layouts members
  simpa [List.map_reverse] using reversed

theorem Taken.inStep (twin : Taken registry others other)
    (same : ∀ layout, layout ∈ roots.map Descriptor.layout ↔
      layout ∈ others.map Descriptor.layout) :
    InStep (fun _ => True) (fun a b => a.layout = b.layout) work other := by
  have layouts := done.layouts_eq strict twin same
  have found := forall₂_key_iff.2 layouts
  have names : work.foundNames = other.foundNames := by
    have firsts := congrArg (List.map Prod.fst) layouts
    rw [List.map_map, List.map_map] at firsts
    exact firsts
  refine ⟨?_, found, ?_, fun _ _ _ _ => trivial⟩
  · rw [done.pending_eq, twin.pending_eq]
    exact found
  · exact done.presents.unique (names ▸ twin.presents)

end Taken

/-- Two lists of roots with the same layouts are taken in alike, or fail at the same name. -/
theorem Admitted.sameOutcome (strict : registry.policy = .strict)
    (same : ∀ layout, layout ∈ roots.map Descriptor.layout ↔
      layout ∈ others.map Descriptor.layout)
    {result twin : Except AssemblyError Work} (admitted : Admitted registry roots result)
    (twinAdmitted : Admitted registry others twin) :
    SameOutcome (InStep (fun _ => True) fun a b => a.layout = b.layout) result twin := by
  have carries : ∀ {left right : List Descriptor},
      (∀ layout, layout ∈ left.map Descriptor.layout → layout ∈ right.map Descriptor.layout) →
        ∀ name, registry.Conflicting left name → registry.Conflicting right name := by
    intro left right covered name conflicting
    refine conflicting.transfer fun root member _ => ?_
    exact List.mem_map.1 (covered root.layout (List.mem_map_of_mem member))
  have there := carries fun layout => (same layout).1
  have back := carries fun layout => (same layout).2
  cases result with
  | ok work =>
      cases twin with
      | ok other => exact Taken.inStep admitted strict twinAdmitted same
      | error conflict =>
          obtain ⟨_, name, _, clash⟩ := twinAdmitted
          exact absurd (back name clash.conflicting) (Taken.not_conflicting admitted strict name)
  | error conflict =>
      obtain ⟨_, name, rfl, clash⟩ := admitted
      have conflicting := there name clash.conflicting
      cases twin with
      | ok other => exact absurd conflicting (Taken.not_conflicting twinAdmitted strict name)
      | error twinConflict =>
          obtain ⟨_, twinName, rfl, twinClash⟩ := twinAdmitted
          -- What conflicts among the one conflicts among the other, so both names are the least.
          have least : registry.LeastConflict others name :=
            ⟨conflicting, fun other clashes => clash.least other (back other clashes)⟩
          exact congrArg _ (least.unique twinClash)

end Work

/-- Under the strict policy roots with the same names and fields come to the same error, or to
definitions with the same names and fields that are presented in the same way. -/
theorem ofRoots_of_sameLayouts {registry : Registry} (strict : registry.policy = .strict)
    {roots others : List Descriptor}
    (same : ∀ layout, layout ∈ roots.map Descriptor.layout ↔
      layout ∈ others.map Descriptor.layout) :
    SameOutcome (fun left right : Flattened =>
        left.descriptors.map Descriptor.layout = right.descriptors.map Descriptor.layout ∧
          left.presentation = right.presentation)
      (ofRoots registry roots) (ofRoots registry others) := by
  have sorted : ∀ layout, layout ∈ (Sorted.sort Descriptor.order roots).map Descriptor.layout ↔
      layout ∈ (Sorted.sort Descriptor.order others).map Descriptor.layout := by
    simpa [Sorted.mem_sort] using same
  have started := Work.Admitted.sameOutcome strict sorted (Work.acceptAll_sort registry roots)
    (Work.acceptAll_sort registry others)
  have ends := ofRoots_inStep registry.matching_refl Descriptor.likeness_layout started
  exact ends.mono fun left right alike => ⟨forall₂_key_iff.1 alike.1, alike.2⟩

def terse : Descriptor where
  name := "ATypeDef"
  fields := [{ name := "B", type := .ref "BTypeDef" }]

def documented : Descriptor :=
  { terse with docstring := "An entry." }

def related : Descriptor where
  name := "BTypeDef"
  fields := [{ name := "A", type := .ref "ATypeDef" }]

theorem repeated_sameLayouts :
    let registry := (Registry.empty "s3" .strict).add related
    let roots := [related, terse]
    let others := [documented, terse, related, documented]
    (∀ layout, layout ∈ roots.map Descriptor.layout ↔ layout ∈ others.map Descriptor.layout) ∧
      SameOutcome (fun left right : Flattened =>
          left.descriptors.map Descriptor.layout = right.descriptors.map Descriptor.layout ∧
            left.presentation = right.presentation)
        (ofRoots registry roots) (ofRoots registry others) := by
  intro registry roots others
  have same : ∀ layout, layout ∈ roots.map Descriptor.layout ↔
      layout ∈ others.map Descriptor.layout := by
    intro layout
    have alike : documented.layout = terse.layout := rfl
    simp only [roots, others, List.map_cons, List.map_nil, List.mem_cons, List.not_mem_nil, alike]
    tauto
  exact ⟨same, ofRoots_of_sameLayouts rfl same⟩

end Flattened

/-!
Definitions as roots. The definitions that a search comes to hold everything
that follows from them, and each of them passes the check against what is
registered. So a search from them, in whatever order they are given, comes to
the same definitions again and presents each of them directly.
-/

theorem PresentationTable.presents_direct {names : List String} {direct : String → Prop}
    (increasing : Sorted.Increasing compare names) (all : ∀ name ∈ names, direct name) :
    Presents { entries := names.map (·, .direct) } direct names := by
  refine ⟨List.pairwise_map.2 increasing, fun name mode => ?_⟩
  constructor
  · intro member
    obtain ⟨known, listed, same⟩ := List.mem_map.1 member
    cases same
    exact ⟨listed, iff_of_true rfl (all name listed)⟩
  · rintro ⟨listed, shown⟩
    exact List.mem_map.2 ⟨name, listed, by rw [shown.2 (all name listed)]⟩

namespace Flattened

namespace Work
variable {registry : Registry}

/-- Roots of different names that pass the check are all taken in as they are. -/
theorem acceptAll_of_distinct {roots : List Descriptor} {work : Work}
    (distinct : (roots.map (·.name)).Nodup) (fresh : ∀ root ∈ roots, root.name ∉ work.foundNames)
    (passes : ∀ root ∈ roots, root.IsResolved ∧ registry.checkRegistered root = .ok ()) :
    ∃ grown, acceptAll registry roots work = .ok grown ∧
      ∀ descriptor, descriptor ∈ grown.found ↔ descriptor ∈ roots ∨ descriptor ∈ work.found := by
  induction roots generalizing work with
  | nil => exact ⟨work, rfl, by simp⟩
  | cons root rest ih =>
      obtain ⟨apart, distinctRest⟩ := List.nodup_cons.1 distinct
      obtain ⟨resolved, agrees⟩ := passes root List.mem_cons_self
      have absent : work.last? root.name = none := last?_of_not_mem (fresh root List.mem_cons_self)
      have accepted : accept registry work root = .ok (work.push root .direct) := by
        simp only [accept, Descriptor.resolve_eq_self resolved, absent, agrees]
      have freshRest : ∀ later ∈ rest, later.name ∉ (work.push root .direct).foundNames := by
        intro later member found
        rcases List.mem_cons.1 found with same | earlier
        · exact apart (List.mem_map.2 ⟨later, member, same⟩)
        · exact fresh later (List.mem_cons_of_mem root member) earlier
      obtain ⟨grown, acceptedRest, members⟩ := ih distinctRest freshRest
        fun later member => passes later (List.mem_cons_of_mem root member)
      refine ⟨grown, by simpa only [acceptAll, accepted] using acceptedRest, fun descriptor => ?_⟩
      rw [members, Work.push, List.mem_cons, List.mem_cons, or_left_comm, or_assoc]

end Work

/-- What a search looks up and where it starts determine what it comes to. -/
theorem Closure.unique {lookUp : String → Option Descriptor} {start : String → Prop}
    {left right : Flattened} (first : Closure lookUp start left)
    (second : Closure lookUp start right) : left = right := by
  have descriptors : left.descriptors = right.descriptors :=
    first.increasing.eq_of_mem_iff second.increasing fun _ =>
      first.mem_iff.trans second.mem_iff.symm
  have names : left.names = right.names := by simp only [Flattened.names, descriptors]
  have presentation := first.presents.unique (names ▸ second.presents)
  cases left
  cases right
  cases descriptors
  cases presentation
  rfl

/-- Every name that follows from the definitions is defined, and each definition would be taken in
as a root, as it is. -/
structure SelfContained (registry : Registry) (flattened : Flattened) : Prop where
  increasing : Sorted.Increasing Descriptor.order flattened.descriptors
  passes : ∀ descriptor ∈ flattened.descriptors,
    descriptor.IsResolved ∧ registry.checkRegistered descriptor = .ok ()
  closed : ∀ descriptor ∈ flattened.descriptors, ∀ child ∈ descriptor.children,
    child ∈ flattened.names

section
variable {registry : Registry} {roots again : List Descriptor} {flattened : Flattened}

theorem ofRoots_selfContained (succeeded : ofRoots registry roots = .ok flattened) :
    SelfContained registry flattened := by
  obtain ⟨work, accepted⟩ := accepted_of_ofRoots succeeded
  have taken := Work.taken_of_acceptAll accepted
  have closure := ofRoots_of_acceptAll accepted taken.toStarted
  rw [succeeded] at closure
  refine ⟨closure.increasing, ?_, ?_⟩ <;> intro descriptor member
  · -- A definition is a root that was kept, or else what is registered under its name.
    rcases Option.or_eq_some_iff.1 (closure.standing descriptor member) with kept | ⟨_, known⟩
    · have found := List.mem_of_find?_eq_some kept
      obtain ⟨root, _, rfl⟩ := taken.root_of_mem found
      exact ⟨root.isResolved_resolve, taken.checked _ found⟩
    · exact ⟨Registry.isResolved_of_find? known, Registry.checkRegistered_of_registered known⟩
  · intro child below
    have reached := (closure.mem_iff.1 member).1
    exact (closure.mem_names_iff child).2
      (Reached.child reached (closure.standing descriptor member) below)

theorem SelfContained.accepted (whole : SelfContained registry flattened)
    (fedBack : again.Perm flattened.descriptors) :
    ∃ work, Work.acceptAll registry (Sorted.sort Descriptor.order again) {} = .ok work ∧
      ∀ descriptor, descriptor ∈ work.found ↔ descriptor ∈ flattened.descriptors := by
  have sorted : (Sorted.sort Descriptor.order again).Perm flattened.descriptors :=
    (List.mergeSort_perm again _).trans fedBack
  have distinct : ((Sorted.sort Descriptor.order again).map (·.name)).Nodup :=
    (sorted.map _).nodup_iff.2 (Descriptor.names_nodup whole.increasing)
  have nothing : ∀ root ∈ Sorted.sort Descriptor.order again, root.name ∉ Work.foundNames {} := by
    simp [Work.foundNames]
  obtain ⟨work, accepted, members⟩ := Work.acceptAll_of_distinct distinct nothing
    fun root given => whole.passes root (sorted.mem_iff.1 given)
  exact ⟨work, accepted, fun descriptor => by simp [members, sorted.mem_iff]⟩

/-- A search that starts from all the definitions comes to these and no more. -/
theorem SelfContained.closure (whole : SelfContained registry flattened)
    {lookUp : String → Option Descriptor} {start : String → Prop}
    (starts : ∀ name, start name ↔ name ∈ flattened.names)
    (standing : ∀ descriptor ∈ flattened.descriptors, lookUp descriptor.name = some descriptor) :
    Closure lookUp start
      { descriptors := flattened.descriptors
        presentation := { entries := flattened.names.map (·, .direct) } } where
  increasing := whole.increasing
  mem_names_iff := by
    intro name
    refine ⟨fun listed => Reached.start ((starts name).2 listed), fun reached => ?_⟩
    apply reached.mem_of_closed fun first => (starts first).1
    intro parent descriptor listed stands
    obtain ⟨definition, member, rfl⟩ := List.mem_map.1 listed
    rw [standing definition member] at stands
    cases stands
    exact whole.closed descriptor member
  standing := standing
  presents := PresentationTable.presents_direct (Work.names_increasing whole.increasing)
    fun name listed => (starts name).2 listed

/-- A search is stable: its definitions given as roots, in any order, come to the same
definitions, and all of them are presented directly. -/
theorem ofRoots_fixedPoint (succeeded : ofRoots registry roots = .ok flattened)
    (fedBack : again.Perm flattened.descriptors) :
    ofRoots registry again = .ok
      { descriptors := flattened.descriptors
        presentation := { entries := flattened.names.map (·, .direct) } } := by
  have whole := ofRoots_selfContained succeeded
  obtain ⟨work, accepted, members⟩ := whole.accepted fedBack
  have taken := Work.taken_of_acceptAll accepted
  have outcome := ofRoots_of_acceptAll accepted taken.toStarted
  have starts : ∀ name, name ∈ work.foundNames ↔ name ∈ flattened.names := by
    simp [Work.foundNames, Flattened.names, members]
  have standing : ∀ descriptor ∈ flattened.descriptors,
      registry.standing work.found descriptor.name = some descriptor :=
    fun descriptor member =>
      Registry.standing_of_mem taken.distinct ((members descriptor).2 member)
  have expected := whole.closure starts standing
  -- Whatever the search can come to is defined, so it misses nothing.
  obtain ⟨result, ends⟩ := outcome.ok_iff.2 fun name reached => by
    obtain ⟨descriptor, member, rfl⟩ := List.mem_map.1 ((expected.mem_names_iff name).2 reached)
    exact ⟨descriptor, expected.standing descriptor member⟩
  rw [ends] at outcome ⊢
  exact congrArg Except.ok (Closure.unique outcome expected)

end

def overriding : Descriptor where
  name := "ATypeDef"
  fields := [{ name := "Peer", type := .ref "BTypeDef" },
    { name := "Next", type := .listOf (.ref "ATypeDef"), required := false }]

def backReference : Descriptor where
  name := "BTypeDef"
  fields := [{ name := "Back", type := .ref "ATypeDef" }]

def overridden : Registry :=
  ((Registry.empty "s3" .firstWins).add { overriding with fields := [] }).add backReference

theorem overridden_fixedPoint :
    let flattened : Flattened :=
      { descriptors := [overriding.resolve, backReference]
        presentation := { entries := [("ATypeDef", .direct), ("BTypeDef", .forwardRef)] } }
    ofRoots overridden [overriding] = .ok flattened ∧
      ofRoots overridden [backReference, overriding.resolve] = .ok
        { flattened with
          presentation := { entries := [("ATypeDef", .direct), ("BTypeDef", .direct)] } } := by
  intro flattened
  have succeeded : ofRoots overridden [overriding] = .ok flattened := by cbv
  exact ⟨succeeded, ofRoots_fixedPoint succeeded (List.Perm.swap _ _ _)⟩

end Flattened

end ServiceStubs
