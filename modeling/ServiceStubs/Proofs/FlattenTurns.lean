import Mathlib.Data.List.Dedup
import Mathlib.Data.List.Perm.Subperm
import ServiceStubs.Proofs.InStep
/-!
How long flattening takes. The search is written out turn by turn. A descriptor
is marked as found when it is pushed, so none is pushed twice, and each turn
takes one of them up. There are no more turns than roots and registered
descriptors, and where the search succeeds one for each definition.
-/

namespace ServiceStubs

theorem Registry.subperm_of_registered {registry : Registry} {descriptors : List Descriptor}
    (distinct : (descriptors.map (·.name)).Nodup)
    (registered : ∀ descriptor ∈ descriptors, descriptor ∈ registry.descriptors) :
    descriptors.Subperm registry.descriptors :=
  List.subperm_of_subset (List.Nodup.of_map _ distinct) registered

namespace Flattened

namespace Work
variable {registry : Registry}

/-- What is found for the first time among some children once `names` are found, up to the first
child that stands for nothing, if there is one. -/
inductive LooksUp (registry : Registry) :
    (names children : List String) → (pushed : List Descriptor) → (missing : Option String) → Prop
  | finished {names : List String} : LooksUp registry names [] [] none
  | known {names rest : List String} {child : String} {pushed : List Descriptor}
      {missing : Option String} (seen : child ∈ names)
      (later : LooksUp registry names rest pushed missing) :
      LooksUp registry names (child :: rest) pushed missing
  | missing {names rest : List String} {child : String} (fresh : child ∉ names)
      (unknown : registry.find? child = none) :
      LooksUp registry names (child :: rest) [] (some child)
  | found {names rest : List String} {descriptor : Descriptor} {pushed : List Descriptor}
      {missing : Option String} (fresh : descriptor.name ∉ names)
      (stands : registry.find? descriptor.name = some descriptor)
      (later : LooksUp registry (descriptor.name :: names) rest pushed missing) :
      LooksUp registry names (descriptor.name :: rest) (descriptor :: pushed) missing

namespace LooksUp
variable {names children : List String} {pushed : List Descriptor} {missing : Option String}

theorem registered (looked : LooksUp registry names children pushed missing) :
    ∀ descriptor ∈ pushed, descriptor ∈ registry.descriptors := by
  induction looked with
  | finished | missing => simp
  | known _ _ ih => exact ih
  | found _ stands _ ih =>
      exact List.forall_mem_cons.2 ⟨(Registry.mem_of_find? stands).1, ih⟩

theorem distinct (looked : LooksUp registry names children pushed missing) (nodup : names.Nodup) :
    (pushed.map (·.name) ++ names).Nodup := by
  induction looked with
  | finished | missing => exact nodup
  | known _ _ ih => exact ih nodup
  | found fresh _ _ ih =>
      exact List.nodup_middle.1 (ih (List.nodup_cons.2 ⟨fresh, nodup⟩))

end LooksUp

structure Turn where
  taken : Descriptor
  pushed : List Descriptor

def pushAll (work : Work) (pushed : List Descriptor) : Work :=
  pushed.foldl (fun grown descriptor => grown.push descriptor .forwardRef) work

theorem pushAll_cons (work : Work) (first : Descriptor) (rest : List Descriptor) :
    work.pushAll (first :: rest) = (work.push first .forwardRef).pushAll rest :=
  rfl

theorem pushAll_pending (work : Work) (pushed : List Descriptor) :
    (work.pushAll pushed).pending = pushed.reverse ++ work.pending := by
  induction pushed generalizing work with
  | nil => rfl
  | cons first rest ih => rw [pushAll_cons, ih, List.reverse_cons, List.append_assoc]; rfl

theorem pushAll_found (work : Work) (pushed : List Descriptor) :
    (work.pushAll pushed).found = pushed.reverse ++ work.found := by
  induction pushed generalizing work with
  | nil => rfl
  | cons first rest ih => rw [pushAll_cons, ih, List.reverse_cons, List.append_assoc]; rfl

theorem pushAll_foundNames (work : Work) (pushed : List Descriptor) :
    (work.pushAll pushed).foundNames.Perm (pushed.map (·.name) ++ work.foundNames) := by
  rw [foundNames, pushAll_found, List.map_append, List.map_reverse]
  exact (List.reverse_perm _).append_right _

def lookedUp (registry : Registry) (parent : String) (work : Work) (pushed : List Descriptor) :
    Option String → Except AssemblyError Work
  | none => .ok (work.pushAll pushed)
  | some child => .error (.unresolvedReference registry.service child parent)

/-- Looking children up pushes what is found for the first time, and fails at a child that stands
for nothing. -/
theorem LooksUp.discover_eq {names children : List String} {pushed : List Descriptor}
    {missing : Option String} (looked : LooksUp registry names children pushed missing)
    (work : Work) (before : work.foundNames = names) (parent : String) :
    discover registry parent children work = lookedUp registry parent work pushed missing := by
  induction looked generalizing work with
  | finished => rfl
  | known seen _ ih => rw [discover, before, if_pos seen, ih work before]
  | missing fresh unknown => rw [discover, before, if_neg fresh, unknown]; rfl
  | @found names rest descriptor pushed missing fresh stands _ ih =>
      rw [discover, before, if_neg fresh, stands]
      have grown : (work.push descriptor .forwardRef).foundNames = descriptor.name :: names :=
        congrArg (descriptor.name :: ·) before
      refine (ih _ grown).trans ?_
      cases missing <;> rfl

theorem exists_looksUp (registry : Registry) (names children : List String) :
    ∃ pushed missing, LooksUp registry names children pushed missing := by
  induction children generalizing names with
  | nil => exact ⟨[], none, .finished⟩
  | cons child rest ih =>
      by_cases seen : child ∈ names
      · obtain ⟨pushed, missing, later⟩ := ih names
        exact ⟨pushed, missing, .known seen later⟩
      · cases known : registry.find? child with
        | none => exact ⟨[], some child, .missing seen known⟩
        | some descriptor =>
            obtain rfl := Registry.name_of_find? known
            obtain ⟨pushed, missing, later⟩ := ih (descriptor.name :: names)
            exact ⟨descriptor :: pushed, missing, .found seen known later⟩

/-- The search turn by turn: each takes the descriptor in front up, and the search ends when none
is pending or a child stands for nothing. -/
inductive Run (registry : Registry) : Work → List Turn → Except AssemblyError Work → Prop
  | done {work : Work} (finished : work.pending = []) : Run registry work [] (.ok work)
  | failed {work : Work} {next : Descriptor} {rest pushed : List Descriptor} {child : String}
      (pending : work.pending = next :: rest)
      (looked : LooksUp registry work.foundNames next.children pushed (some child)) :
      Run registry work [⟨next, pushed⟩]
        (.error (.unresolvedReference registry.service child next.name))
  | turn {work : Work} {next : Descriptor} {rest pushed : List Descriptor} {turns : List Turn}
      {result : Except AssemblyError Work} (pending : work.pending = next :: rest)
      (looked : LooksUp registry work.foundNames next.children pushed none)
      (later : Run registry (pushAll { work with pending := rest } pushed) turns result) :
      Run registry work (⟨next, pushed⟩ :: turns) result

theorem exists_run (registry : Registry) (work : Work) :
    ∃ turns, Run registry work turns (explore registry work) := by
  fun_induction explore registry work with
  | case1 work finished => exact ⟨[], .done finished⟩
  | case2 work next rest pending unresolved failed =>
      obtain ⟨pushed, missing, looked⟩ := exists_looksUp registry work.foundNames next.children
      have ended := looked.discover_eq { work with pending := rest } rfl next.name
      cases missing with
      | none => cases failed.symm.trans ended
      | some child =>
          cases failed.symm.trans ended
          exact ⟨_, .failed pending looked⟩
  | case3 work next rest pending grown found ih =>
      obtain ⟨turns, run⟩ := ih
      obtain ⟨pushed, missing, looked⟩ := exists_looksUp registry work.foundNames next.children
      have ended := looked.discover_eq { work with pending := rest } rfl next.name
      cases missing with
      | none =>
          cases found.symm.trans ended
          exact ⟨_, .turn pending looked run⟩
      | some child => cases found.symm.trans ended

namespace Run
variable {work : Work} {turns : List Turn} {result : Except AssemblyError Work}

/-- However the turns go, they come to what the search comes to. -/
theorem explore_eq (run : Run registry work turns result) : explore registry work = result := by
  induction run with
  | done finished => exact explore_of_done finished
  | @failed work next rest pushed child pending looked =>
      rw [explore_of_pending pending,
        looked.discover_eq { work with pending := rest } rfl next.name]
      rfl
  | @turn work next rest pushed turns result pending looked _ ih =>
      rw [explore_of_pending pending,
        looked.discover_eq { work with pending := rest } rfl next.name]
      exact ih

theorem registered (run : Run registry work turns result) :
    ∀ descriptor ∈ turns.flatMap (·.pushed), descriptor ∈ registry.descriptors := by
  induction run with
  | done => simp
  | failed _ looked => simpa using looked.registered
  | turn _ looked _ ih =>
      intro descriptor member
      rw [List.flatMap_cons] at member
      rcases List.mem_append.1 member with here | later
      · exact looked.registered descriptor here
      · exact ih descriptor later

/-- Nothing is pushed that has been found before, or twice. -/
theorem distinct (run : Run registry work turns result) (nodup : work.foundNames.Nodup) :
    ((turns.flatMap (·.pushed)).map (·.name) ++ work.foundNames).Nodup := by
  induction run with
  | done => exact nodup
  | failed _ looked => simpa using looked.distinct nodup
  | @turn work next rest pushed turns result _ looked _ ih =>
      have grown := pushAll_foundNames { work with pending := rest } pushed
      have after := (grown.append_left _).nodup_iff.1
        (ih (grown.nodup_iff.2 (looked.distinct nodup)))
      rw [List.flatMap_cons, List.map_append, List.append_assoc]
      exact (List.perm_append_comm_assoc _ _ _).nodup_iff.1 after

/-- Each turn takes up something that has been pending or pushed. What is left is nothing where
the search succeeds. -/
theorem taken_perm (run : Run registry work turns result) :
    ∃ left, (turns.map (·.taken) ++ left).Perm (work.pending ++ turns.flatMap (·.pushed)) ∧
      ∀ complete, result = .ok complete → left = [] := by
  induction run with
  | done finished =>
      refine ⟨[], ?_, fun _ _ => rfl⟩
      rw [finished]
      exact List.Perm.refl _
  | @failed work next rest pushed child pending looked =>
      refine ⟨rest ++ pushed, ?_, nofun⟩
      simp [pending]
  | @turn work next rest pushed turns result pending looked _ ih =>
      obtain ⟨left, later, finished⟩ := ih
      refine ⟨left, ?_, finished⟩
      rw [pushAll_pending, List.append_assoc] at later
      rw [pending, List.map_cons, List.flatMap_cons]
      have regrouped : (pushed.reverse ++ (rest ++ turns.flatMap (·.pushed))).Perm
          (rest ++ (pushed ++ turns.flatMap (·.pushed))) :=
        ((List.reverse_perm pushed).append_right _).trans (List.perm_append_comm_assoc _ _ _)
      exact (later.trans regrouped).cons next

theorem found_eq (run : Run registry work turns result) {complete : Work}
    (succeeds : result = .ok complete) :
    complete.found = (turns.flatMap (·.pushed)).reverse ++ work.found := by
  induction run with
  | done finished => cases succeeds; rfl
  | failed => cases succeeds
  | turn pending looked _ ih =>
      rw [ih succeeds, pushAll_found, List.flatMap_cons, List.reverse_append, List.append_assoc]

end Run

theorem finish_perm (work : Work) : work.finish.descriptors.Perm work.found :=
  (List.mergeSort_perm _ _).trans (List.reverse_perm _)

/-- Of the roots taken in there is one for each name. -/
theorem Taken.foundNames_perm {roots : List Descriptor} {work : Work}
    (taken : Taken registry (Sorted.sort Descriptor.order roots) work) :
    work.foundNames.Perm (roots.map (·.name)).dedup := by
  refine (List.perm_ext_iff_of_nodup taken.distinct (List.nodup_dedup _)).2 fun name => ?_
  rw [List.mem_dedup]
  constructor
  · intro member
    obtain ⟨descriptor, found, rfl⟩ := List.mem_map.1 member
    obtain ⟨root, given, rfl⟩ := taken.root_of_mem found
    exact List.mem_map.2 ⟨root, Sorted.mem_sort.1 given, rfl⟩
  · intro member
    obtain ⟨root, given, rfl⟩ := List.mem_map.1 member
    obtain ⟨first, found⟩ := taken.first_of_root (Sorted.mem_sort.2 given)
    have named : first.name = root.name := by simpa using List.find?_some found
    exact named ▸ mem_foundNames (List.mem_of_find?_eq_some found)

end Work

/-- Flattening turn by turn. `started` are the roots that were pushed before the first turn. -/
inductive Run (registry : Registry) (roots : List Descriptor) :
    (started : List Descriptor) → List Work.Turn → Except AssemblyError Flattened → Prop
  | refused {conflict : AssemblyError}
      (conflicts : Work.acceptAll registry (Sorted.sort Descriptor.order roots) {} =
        .error conflict) :
      Run registry roots [] [] (.error conflict)
  | searched {work : Work} {turns : List Work.Turn} {result : Except AssemblyError Work}
      (accepted : Work.acceptAll registry (Sorted.sort Descriptor.order roots) {} = .ok work)
      (run : Work.Run registry work turns result) :
      Run registry roots work.pending turns (result.map Work.finish)

def pushes (started : List Descriptor) (turns : List Work.Turn) : List Descriptor :=
  started ++ turns.flatMap (·.pushed)

namespace Run
variable {registry : Registry} {roots started : List Descriptor} {turns : List Work.Turn}
  {result : Except AssemblyError Flattened}

theorem ofRoots_eq (run : Run registry roots started turns result) :
    ofRoots registry roots = result := by
  unfold ofRoots
  cases run with
  | refused conflicts => rw [conflicts]
  | @searched work turns result accepted run =>
      simp only [accepted, run.explore_eq]
      cases result <;> rfl

/-- No descriptor is pushed twice. -/
theorem pushes_distinct (run : Run registry roots started turns result) :
    ((pushes started turns).map (·.name)).Nodup := by
  cases run with
  | refused => exact List.nodup_nil
  | @searched work turns result accepted run =>
      have taken := Work.taken_of_acceptAll accepted
      have apart := run.distinct taken.distinct
      rw [pushes, taken.pending_eq, List.map_append]
      exact List.perm_append_comm.nodup_iff.1 apart

theorem taken_subperm (run : Run registry roots started turns result) :
    (turns.map (·.taken)).Subperm (pushes started turns) := by
  cases run with
  | refused => exact List.nil_subperm
  | searched accepted run =>
      obtain ⟨left, perm, _⟩ := run.taken_perm
      exact (List.sublist_append_left _ left).subperm.trans perm.subperm

theorem length_le (run : Run registry roots started turns result) :
    turns.length ≤ (roots.map (·.name)).dedup.length + registry.descriptors.length := by
  have turned := run.taken_subperm.length_le
  rw [List.length_map, pushes, List.length_append] at turned
  have distinct := run.pushes_distinct
  cases run with
  | refused => exact Nat.zero_le _
  | @searched work turns result accepted run =>
      have taken := Work.taken_of_acceptAll accepted
      have starts := taken.foundNames_perm.length_eq
      rw [Work.foundNames, List.length_map, ← taken.pending_eq] at starts
      rw [pushes, List.map_append] at distinct
      have later :=
        (Registry.subperm_of_registered (List.nodup_append.1 distinct).2.1 run.registered).length_le
      omega

/-- Flattening that succeeds takes up every descriptor of the result in one turn. -/
theorem taken_perm (run : Run registry roots started turns result) {flattened : Flattened}
    (succeeds : result = .ok flattened) :
    (turns.map (·.taken)).Perm flattened.descriptors ∧
      (pushes started turns).Perm flattened.descriptors := by
  have distinct := run.pushes_distinct
  cases run with
  | refused => cases succeeds
  | @searched work turns result accepted run =>
      cases result with
      | error unresolved => cases succeeds
      | ok complete =>
          cases succeeds
          have taken := Work.taken_of_acceptAll accepted
          obtain ⟨left, turned, finished⟩ := run.taken_perm
          rw [finished complete rfl, List.append_nil] at turned
          have found : (pushes work.pending turns).Perm complete.found := by
            rw [run.found_eq rfl, pushes, taken.pending_eq]
            exact List.perm_append_comm.trans ((List.reverse_perm _).symm.append_right _)
          have all := found.trans complete.finish_perm.symm
          exact ⟨turned.trans all, all⟩

end Run

theorem exists_run (registry : Registry) (roots : List Descriptor) :
    ∃ started turns, Run registry roots started turns (ofRoots registry roots) := by
  have ran : ∃ started turns result, Run registry roots started turns result := by
    cases accepted : Work.acceptAll registry (Sorted.sort Descriptor.order roots) {} with
    | error conflict => exact ⟨_, _, _, .refused accepted⟩
    | ok work =>
        obtain ⟨turns, run⟩ := Work.exists_run registry work
        exact ⟨_, _, _, .searched accepted run⟩
  obtain ⟨started, turns, result, run⟩ := ran
  exact ⟨started, turns, run.ofRoots_eq ▸ run⟩

end Flattened

end ServiceStubs
