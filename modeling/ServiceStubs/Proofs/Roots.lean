import ServiceStubs.Proofs.Registry
import ServiceStubs.Proofs.Worklist
/-!
Taking the roots of a search in. Roots are taken in name order, so the roots of
one name come together, and to hold a root against the one that was kept last
is to hold it against the first of its name. The search fails at the least name
whose roots differ among themselves or from what is registered.
-/

namespace ServiceStubs

namespace Descriptor

@[simp] theorem name_resolve (descriptor : Descriptor) : descriptor.resolve.name = descriptor.name :=
  rfl

theorem map_resolve_names (roots : List Descriptor) :
    (roots.map resolve).map (·.name) = roots.map (·.name) := by
  rw [List.map_map]
  rfl

theorem find?_resolve (roots : List Descriptor) (name : String) :
    (roots.map resolve).find? (·.name == name) = (roots.find? (·.name == name)).map resolve := by
  rw [List.find?_map]
  rfl

end Descriptor

/-- The roots of that name differ in their fields, among themselves or from what is registered. -/
def Registry.Conflicting (registry : Registry) (roots : List Descriptor) (name : String) : Prop :=
  ∃ root ∈ roots, root.name = name ∧
    ((∃ other ∈ roots, other.name = name ∧ other.resolve.fields ≠ root.resolve.fields) ∨
      ∃ known, registry.find? name = some known ∧ known.fields ≠ root.resolve.fields)

namespace Registry
variable {registry : Registry} {roots others : List Descriptor} {name : String}

theorem Conflicting.transfer (conflicting : registry.Conflicting roots name)
    (keeps : ∀ root ∈ roots, root.name = name → ∃ twin ∈ others, twin.layout = root.layout) :
    registry.Conflicting others name := by
  obtain ⟨root, member, named, differs⟩ := conflicting
  obtain ⟨twin, twinMember, same⟩ := keeps root member named
  have fields : twin.resolve.fields = root.resolve.fields :=
    congrArg Prod.snd (Descriptor.resolve_layout same)
  refine ⟨twin, twinMember, (Descriptor.name_of_layout same).trans named, ?_⟩
  rw [fields]
  rcases differs with ⟨other, otherMember, otherNamed, apart⟩ | registered
  · obtain ⟨otherTwin, otherTwinMember, otherSame⟩ := keeps other otherMember otherNamed
    have otherFields : otherTwin.resolve.fields = other.resolve.fields :=
      congrArg Prod.snd (Descriptor.resolve_layout otherSame)
    refine Or.inl ⟨otherTwin, otherTwinMember, ?_, otherFields ▸ apart⟩
    exact (Descriptor.name_of_layout otherSame).trans otherNamed
  · exact Or.inr registered

structure LeastConflict (registry : Registry) (roots : List Descriptor) (name : String) : Prop where
  conflicting : registry.Conflicting roots name
  least : ∀ other, registry.Conflicting roots other → compare other name ≠ .lt

theorem LeastConflict.unique {other : String} (first : registry.LeastConflict roots name)
    (second : registry.LeastConflict roots other) : name = other := by
  have notAbove := first.least other second.conflicting
  have notBelow := second.least name first.conflicting
  cases placed : compare name other with
  | lt => exact absurd placed notBelow
  | eq => exact Std.LawfulEqOrd.eq_of_compare placed
  | gt => exact absurd (Std.OrientedCmp.lt_of_gt placed) notAbove

theorem map_resolve_of_registered
    (registered : ∀ root ∈ roots, registry.find? root.name = some root) :
    roots.map Descriptor.resolve = roots := by
  refine (List.map_congr_left fun root member => ?_).trans (List.map_id roots)
  exact Descriptor.resolve_eq_self (isResolved_of_find? (registered root member))

theorem not_conflicting_of_registered
    (registered : ∀ root ∈ roots, registry.find? root.name = some root) :
    ¬ registry.Conflicting roots name := by
  rintro ⟨root, member, rfl, ⟨other, otherMember, named, differs⟩ | ⟨known, stands, differs⟩⟩
  · have same := registered other otherMember
    rw [named, registered root member] at same
    cases same
    exact differs rfl
  · rw [registered root member] at stands
    cases stands
    rw [Descriptor.resolve_eq_self (isResolved_of_find? (registered root member))] at differs
    exact differs rfl

theorem layout_of_strict (strict : registry.policy = .strict) {first duplicate : Descriptor}
    (dropped : registry.checkDuplicate first duplicate = .ok ()) :
    first.layout = duplicate.layout := by
  rcases registry.checkDuplicate_cases first duplicate with ⟨_, agrees | lenient⟩ | ⟨failed, _⟩
  · exact Descriptor.agrees_iff.1 agrees
  · rw [strict] at lenient
    cases lenient
  · rw [dropped] at failed
    cases failed

end Registry

namespace Flattened.Work
variable {registry : Registry} {work : Work} {root : Descriptor}

theorem mem_of_last? {name : String} {first : Descriptor} (kept : work.last? name = some first) :
    first ∈ work.found ∧ first.name = name := by
  unfold last? at kept
  split at kept
  · rename_i last rest found
    split at kept
    · rename_i named
      cases kept
      exact ⟨found ▸ List.mem_cons_self, named⟩
    · cases kept
  · cases kept

theorem last?_of_not_mem {name : String} (absent : name ∉ work.foundNames) :
    work.last? name = none := by
  cases kept : work.last? name with
  | none => rfl
  | some first =>
      obtain ⟨found, rfl⟩ := mem_of_last? kept
      exact absurd (mem_foundNames found) absent

/-- Taking a root in drops it for the one kept last, or else makes it pending. -/
theorem accept_cases {grown : Work} (accepted : accept registry work root = .ok grown) :
    (∃ first, work.last? root.name = some first ∧
      registry.checkDuplicate first root.resolve = .ok () ∧ grown = work) ∨
    (work.last? root.name = none ∧ registry.checkRegistered root.resolve = .ok () ∧
      grown = work.push root.resolve .direct) := by
  unfold accept at accepted
  cases earlier : work.last? root.resolve.name with
  | some first =>
      simp only [earlier] at accepted
      split at accepted
      · rename_i agrees
        cases accepted
        exact Or.inl ⟨first, earlier, agrees, rfl⟩
      · cases accepted
  | none =>
      simp only [earlier] at accepted
      split at accepted
      · rename_i agrees
        cases accepted
        exact Or.inr ⟨earlier, agrees, rfl⟩
      · cases accepted

/-- A root is refused under the strict policy only, and because it differs from the one kept last
or, being the first of its name, from what is registered. -/
theorem accept_conflict {conflict : AssemblyError}
    (refused : accept registry work root = .error conflict) :
    registry.policy = .strict ∧ conflict = .nameConflict registry.service root.name ∧
      ((∃ first, work.last? root.name = some first ∧ ¬ first.agrees root.resolve) ∨
        ∃ known, registry.find? root.name = some known ∧ ¬ known.agrees root.resolve) := by
  have ofCheck : ∀ existing, registry.checkDuplicate existing root.resolve = .error conflict →
      registry.policy = .strict ∧ conflict = .nameConflict registry.service root.name ∧
        ¬ existing.agrees root.resolve := by
    intro existing failed
    rcases registry.checkDuplicate_cases existing root.resolve with
      ⟨dropped, _⟩ | ⟨clash, differ, strict⟩
    · rw [dropped] at failed
      cases failed
    · rw [clash] at failed
      cases failed
      exact ⟨strict, rfl, differ⟩
  unfold accept at refused
  cases earlier : work.last? root.resolve.name with
  | some first =>
      simp only [earlier] at refused
      split at refused
      · cases refused
      · rename_i failed
        cases refused
        obtain ⟨strict, reported, differ⟩ := ofCheck first failed
        exact ⟨strict, reported, Or.inl ⟨first, earlier, differ⟩⟩
  | none =>
      simp only [earlier, Registry.checkRegistered] at refused
      split at refused
      · cases refused
      · rename_i failed
        cases refused
        split at failed
        · rename_i known stands
          obtain ⟨strict, reported, differ⟩ := ofCheck known failed
          exact ⟨strict, reported, Or.inr ⟨known, stands, differ⟩⟩
        · cases failed

/-- What holds once the roots in `taken` have been taken in, in name order. -/
structure Taken (registry : Registry) (taken : List Descriptor) (work : Work) : Prop
    extends Started work where
  decreasing : work.found.Pairwise fun later earlier => earlier.order later = .lt
  find?_eq : ∀ name, work.found.find? (·.name == name) =
    (taken.find? (·.name == name)).map Descriptor.resolve
  dropped : ∀ root ∈ taken, ∀ first, work.found.find? (·.name == root.name) = some first →
    registry.checkDuplicate first root.resolve = .ok ()
  checked : ∀ descriptor ∈ work.found, registry.checkRegistered descriptor = .ok ()

theorem taken_nil (registry : Registry) : Taken registry [] {} where
  toStarted := started_empty
  decreasing := List.Pairwise.nil
  find?_eq := by simp
  dropped := by simp
  checked := by simp

namespace Taken
variable {taken : List Descriptor}

theorem find?_of_mem (done : Taken registry taken work) {descriptor : Descriptor}
    (found : descriptor ∈ work.found) :
    work.found.find? (·.name == descriptor.name) = some descriptor :=
  Descriptor.find?_eq_some_of_mem done.distinct found

/-- What has been found are roots, resolved. -/
theorem root_of_mem (done : Taken registry taken work) {descriptor : Descriptor}
    (found : descriptor ∈ work.found) : ∃ root ∈ taken, descriptor = root.resolve := by
  have first := done.find?_of_mem found
  rw [done.find?_eq] at first
  obtain ⟨root, listed, rfl⟩ := Option.map_eq_some_iff.1 first
  exact ⟨root, List.mem_of_find?_eq_some listed, rfl⟩

/-- As the roots come in name order, none but the one kept last can have the name of the next. -/
theorem last?_eq (done : Taken registry taken work)
    (sorted : ∀ earlier ∈ taken, (earlier.order root).isLE) :
    work.last? root.name = work.found.find? (·.name == root.name) := by
  have above : ∀ kept ∈ work.found, (kept.order root).isLE := by
    intro kept found
    obtain ⟨earlier, member, rfl⟩ := done.root_of_mem found
    exact sorted earlier member
  have decreasing := done.decreasing
  cases kept : work.found with
  | nil => simp [last?, kept]
  | cons last rest =>
      rw [kept] at above decreasing
      by_cases same : last.name = root.name
      · simp [last?, kept, same]
      · have absent : rest.find? (·.name == root.name) = none := by
          refine List.find?_eq_none.2 fun earlier member named => ?_
          have below := (List.pairwise_cons.1 decreasing).1 earlier member
          have lower : earlier.order root = .lt :=
            Std.TransCmp.lt_of_lt_of_isLE below (above last List.mem_cons_self)
          rw [Descriptor.order_eq_iff.2 (by simpa using named)] at lower
          cases lower
        simp [last?, kept, same, absent]

theorem first_of_root (done : Taken registry taken work) (member : root ∈ taken) :
    ∃ first, work.found.find? (·.name == root.name) = some first := by
  rw [done.find?_eq]
  cases listed : taken.find? (·.name == root.name) with
  | none =>
      have differs := List.find?_eq_none.1 listed root member
      simp at differs
  | some first => exact ⟨first.resolve, rfl⟩

theorem keep (done : Taken registry taken work) {first : Descriptor}
    (earlier : work.found.find? (·.name == root.name) = some first)
    (agrees : registry.checkDuplicate first root.resolve = .ok ()) :
    Taken registry (taken ++ [root]) work where
  toStarted := done.toStarted
  decreasing := done.decreasing
  find?_eq := by
    intro name
    rw [List.find?_append, done.find?_eq]
    by_cases same : root.name = name
    · have known := done.find?_eq root.name
      rw [earlier, same] at known
      obtain ⟨_, listed, _⟩ := Option.map_eq_some_iff.1 known.symm
      simp [listed]
    · simp [same]
  dropped := by
    intro other member known found
    rcases List.mem_append.1 member with old | new
    · exact done.dropped other old known found
    · obtain rfl := List.mem_singleton.1 new
      rw [earlier] at found
      cases found
      exact agrees
  checked := done.checked

theorem push (done : Taken registry taken work)
    (sorted : ∀ earlier ∈ taken, (earlier.order root).isLE)
    (absent : work.found.find? (·.name == root.name) = none)
    (passes : registry.checkRegistered root.resolve = .ok ()) :
    Taken registry (taken ++ [root]) (work.push root.resolve .direct) where
  toStarted := by
    refine done.toStarted.push fun member => ?_
    obtain ⟨descriptor, listed, same⟩ := List.mem_map.1 member
    exact List.find?_eq_none.1 absent descriptor listed (beq_iff_eq.2 same)
  decreasing := by
    refine List.pairwise_cons.2 ⟨fun descriptor found => ?_, done.decreasing⟩
    obtain ⟨earlier, member, rfl⟩ := done.root_of_mem found
    -- The roots taken before come no later, and none of them has this name.
    have below : (earlier.order root).isLE := sorted earlier member
    have apart : earlier.order root ≠ .eq := by
      intro same
      have differs := List.find?_eq_none.1 absent earlier.resolve found
      exact differs (by simpa [Descriptor.resolve] using Descriptor.order_eq_iff.1 same)
    change earlier.order root = .lt
    cases placed : earlier.order root <;> simp_all
  find?_eq := by
    intro name
    have before := done.find?_eq name
    have taken_none : taken.find? (·.name == root.name) = none := by
      have none_before := done.find?_eq root.name
      rw [absent] at none_before
      exact Option.map_eq_none_iff.1 none_before.symm
    rw [List.find?_append, Work.push]
    by_cases same : root.name = name
    · subst same
      simp [taken_none, Descriptor.resolve]
    · simp [same, before]
  dropped := by
    intro other member known found
    rcases List.mem_append.1 member with old | new
    · have apart : root.resolve.name ≠ other.name := by
        intro same
        obtain ⟨first, earlier⟩ := done.first_of_root old
        rw [← same] at earlier
        rw [Descriptor.name_resolve, absent] at earlier
        cases earlier
      rw [Work.push, List.find?_cons_of_neg (by simpa using apart)] at found
      exact done.dropped other old known found
    · obtain rfl := List.mem_singleton.1 new
      have same : other.resolve = known := by
        simpa [Work.push, Descriptor.resolve] using found
      exact same ▸ registry.checkDuplicate_self known
  checked := by
    intro descriptor found
    rcases List.mem_cons.1 found with rfl | earlier
    · exact passes
    · exact done.checked descriptor earlier

theorem accept (done : Taken registry taken work)
    (sorted : ∀ earlier ∈ taken, (earlier.order root).isLE) {grown : Work}
    (accepted : accept registry work root = .ok grown) :
    Taken registry (taken ++ [root]) grown := by
  rcases accept_cases accepted with ⟨first, earlier, agrees, rfl⟩ | ⟨absent, passes, rfl⟩
  · rw [done.last?_eq sorted] at earlier
    exact done.keep earlier agrees
  · rw [done.last?_eq sorted] at absent
    exact done.push sorted absent passes

section Strict
variable (done : Taken registry taken work) (strict : registry.policy = .strict)
include done strict

/-- Under the strict policy every root has the fields of the one that was kept. -/
theorem layout_of_root (member : root ∈ taken) :
    ∃ first ∈ work.found, first.layout = root.resolve.layout := by
  obtain ⟨first, earlier⟩ := done.first_of_root member
  have same := Registry.layout_of_strict strict (done.dropped root member first earlier)
  exact ⟨first, List.mem_of_find?_eq_some earlier, same⟩

theorem layout_of_registered {first known : Descriptor} (found : first ∈ work.found)
    (stands : registry.find? first.name = some known) : known.layout = first.layout := by
  have passes := done.checked first found
  rw [Registry.checkRegistered, stands] at passes
  exact Registry.layout_of_strict strict passes

theorem not_conflicting (name : String) : ¬ registry.Conflicting taken name := by
  rintro ⟨root, member, named, differs⟩
  obtain ⟨first, found, same⟩ := done.layout_of_root strict member
  have firstNamed : first.name = name := (Descriptor.name_of_layout same).trans named
  rcases differs with ⟨other, otherMember, otherNamed, apart⟩ | ⟨known, stands, apart⟩
  · obtain ⟨twin, twinFound, twinSame⟩ := done.layout_of_root strict otherMember
    have twinNamed : twin.name = name := (Descriptor.name_of_layout twinSame).trans otherNamed
    -- Both are what was found under the name.
    have once := done.find?_of_mem twinFound
    rw [twinNamed, ← firstNamed, done.find?_of_mem found] at once
    cases once
    exact apart (congrArg Prod.snd (twinSame.symm.trans same))
  · have agrees := done.layout_of_registered strict found (firstNamed ▸ stands)
    exact apart (congrArg Prod.snd (agrees.trans same))

end Strict

end Taken

/-- What taking the roots in comes to: either they have all been taken in, or the least name under
which there is a conflict is reported. -/
def Admitted (registry : Registry) (roots : List Descriptor) : Except AssemblyError Work → Prop
  | .ok work => Taken registry roots work
  | .error conflict => registry.policy = .strict ∧
      ∃ name, conflict = .nameConflict registry.service name ∧ registry.LeastConflict roots name

theorem fields_ne_of_not_agrees {a b : Descriptor} (name : a.name = b.name)
    (differ : ¬ a.agrees b) : a.fields ≠ b.fields :=
  fun fields => differ (Descriptor.agrees_iff.2 (Prod.ext name fields))

theorem Taken.refuse {taken rest : List Descriptor} (done : Taken registry taken work)
    (sorted : (taken ++ root :: rest).Pairwise fun a b => (a.order b).isLE)
    {conflict : AssemblyError} (refused : Work.accept registry work root = .error conflict) :
    Admitted registry (taken ++ root :: rest) (.error conflict) := by
  obtain ⟨strict, reported, differs⟩ := accept_conflict refused
  have member : root ∈ taken ++ root :: rest := by simp
  refine ⟨strict, root.name, reported,
    { conflicting := ⟨root, member, rfl, ?_⟩, least := fun other conflicting below => ?_ }⟩
  · rcases differs with ⟨first, earlier, differ⟩ | ⟨known, stands, differ⟩
    · obtain ⟨found, named⟩ := mem_of_last? earlier
      obtain ⟨before, beforeMember, rfl⟩ := done.root_of_mem found
      refine Or.inl ⟨before, List.mem_append_left _ beforeMember, named, ?_⟩
      exact fields_ne_of_not_agrees named differ
    · have named : known.name = root.name := Registry.name_of_find? stands
      exact Or.inr ⟨known, stands, fields_ne_of_not_agrees named differ⟩
  · -- The roots of a lesser name have all been taken in, so they do not conflict.
    apply done.not_conflicting strict other
    refine conflicting.transfer fun twin twinMember named => ⟨twin, ?_, rfl⟩
    rcases List.mem_append.1 twinMember with before | after
    · exact before
    · have later : (root.order twin).isLE := by
        rcases List.mem_cons.1 after with rfl | deeper
        · simp [Descriptor.order]
        · exact (List.pairwise_cons.1 (List.pairwise_append.1 sorted).2.1).1 twin deeper
      have above : (compare root.name other).isLE := by
        simpa [Descriptor.order, named] using later
      exact absurd below (Std.OrientedCmp.not_lt_of_isLE above)

theorem Taken.acceptAll {taken roots : List Descriptor} (done : Taken registry taken work)
    (sorted : (taken ++ roots).Pairwise fun a b => (a.order b).isLE) :
    Admitted registry (taken ++ roots) (acceptAll registry roots work) := by
  induction roots generalizing taken work with
  | nil => simpa [Admitted, Work.acceptAll] using done
  | cons root rest ih =>
      unfold Work.acceptAll
      cases ended : Work.accept registry work root with
      | error conflict => exact done.refuse sorted ended
      | ok next =>
          have before : ∀ earlier ∈ taken, (earlier.order root).isLE := by
            intro earlier member
            exact (List.pairwise_append.1 sorted).2.2 earlier member root List.mem_cons_self
          have regrouped : taken ++ root :: rest = (taken ++ [root]) ++ rest := by simp
          rw [regrouped] at sorted ⊢
          exact ih (done.accept before ended) sorted

theorem acceptAll_sort (registry : Registry) (roots : List Descriptor) :
    Admitted registry (Sorted.sort Descriptor.order roots)
      (acceptAll registry (Sorted.sort Descriptor.order roots) {}) :=
  (taken_nil registry).acceptAll (Sorted.pairwise_sort roots)

section InNameOrder
variable {roots : List Descriptor}

theorem taken_of_acceptAll
    (accepted : acceptAll registry (Sorted.sort Descriptor.order roots) {} = .ok work) :
    Taken registry (Sorted.sort Descriptor.order roots) work := by
  have admitted := acceptAll_sort registry roots
  rw [accepted] at admitted
  exact admitted

theorem conflict_of_acceptAll {conflict : AssemblyError}
    (refused : acceptAll registry (Sorted.sort Descriptor.order roots) {} = .error conflict) :
    registry.policy = .strict ∧ ∃ name, conflict = .nameConflict registry.service name ∧
      registry.LeastConflict (Sorted.sort Descriptor.order roots) name := by
  have admitted := acceptAll_sort registry roots
  rw [refused] at admitted
  exact admitted

/-- Roots that are what is registered do not conflict, so all of them are taken in. -/
theorem exists_taken (registered : ∀ root ∈ roots, registry.find? root.name = some root) :
    ∃ work, acceptAll registry (Sorted.sort Descriptor.order roots) {} = .ok work ∧
      Taken registry (Sorted.sort Descriptor.order roots) work := by
  cases accepted : acceptAll registry (Sorted.sort Descriptor.order roots) {} with
  | ok work => exact ⟨work, rfl, taken_of_acceptAll accepted⟩
  | error conflict =>
      obtain ⟨_, name, _, least⟩ := conflict_of_acceptAll accepted
      refine absurd least.conflicting (Registry.not_conflicting_of_registered fun root member => ?_)
      exact registered root (Sorted.mem_sort.1 member)

end InNameOrder

end Flattened.Work

namespace Flattened
variable {registry : Registry} {roots : List Descriptor}

theorem Work.Taken.find?_sorted {work : Work}
    (done : Work.Taken registry (Sorted.sort Descriptor.order roots) work) (name : String) :
    work.found.find? (·.name == name) = (roots.map Descriptor.resolve).find? (·.name == name) := by
  have alike : ∀ a b : Descriptor, (a.name == name) = true → (b.name == name) = true →
      a.order b = .eq := by
    intro a b first second
    exact Descriptor.order_eq_iff.2 ((beq_iff_eq.1 first).trans (beq_iff_eq.1 second).symm)
  rw [done.find?_eq, Sorted.find?_sort alike, Descriptor.find?_resolve]

theorem ofRoots_of_taken {work : Work}
    (accepted : Work.acceptAll registry (Sorted.sort Descriptor.order roots) {} = .ok work)
    (done : Work.Taken registry (Sorted.sort Descriptor.order roots) work) :
    Outcome registry.service (registry.standing (roots.map Descriptor.resolve))
      (· ∈ roots.map (·.name)) (ofRoots registry roots) := by
  have standing : registry.standing work.found =
      registry.standing (roots.map Descriptor.resolve) := by
    funext name
    rw [Registry.standing, Registry.standing, done.find?_sorted]
  have starts : (· ∈ work.foundNames) = (· ∈ roots.map (·.name)) := by
    funext name
    rw [← Descriptor.map_resolve_names, Work.foundNames, Descriptor.mem_names_iff_find?,
      Descriptor.mem_names_iff_find?, done.find?_sorted]
  have outcome := ofRoots_of_acceptAll accepted done.toStarted
  rwa [standing, starts] at outcome

/-- A search from given roots either conflicts or comes to what is reached from them, where a root
counts as it is once resolved, and of several roots of one name the first does. -/
theorem ofRoots_cases (registry : Registry) (roots : List Descriptor) :
    Outcome registry.service (registry.standing (roots.map Descriptor.resolve))
        (· ∈ roots.map (·.name)) (ofRoots registry roots) ∨
      ∃ name, ofRoots registry roots = .error (.nameConflict registry.service name) := by
  cases accepted : Work.acceptAll registry (Sorted.sort Descriptor.order roots) {} with
  | error conflict =>
      obtain ⟨_, name, reported, _⟩ := Work.conflict_of_acceptAll accepted
      exact Or.inr ⟨name, by simp only [ofRoots, accepted, reported]⟩
  | ok work => exact Or.inl (ofRoots_of_taken accepted (Work.taken_of_acceptAll accepted))

theorem ofRoots_closure {flattened : Flattened} (succeeded : ofRoots registry roots = .ok flattened) :
    Closure (registry.standing (roots.map Descriptor.resolve)) (· ∈ roots.map (·.name))
      flattened := by
  rcases ofRoots_cases registry roots with outcome | ⟨name, failed⟩
  · rwa [succeeded] at outcome
  · rw [succeeded] at failed
    cases failed

end Flattened

end ServiceStubs
