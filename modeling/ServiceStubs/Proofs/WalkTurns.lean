import Mathlib.Data.List.Flatten
import ServiceStubs.Proofs.FlattenTurns
/-!
How long the walk from one descriptor takes, and that both searches end. The
walk marks a name when it expands it, so a name may be pushed again as long as
it waits. Only its first turn expands it, so what is pushed is bounded by the
children of the registered descriptors.
-/

namespace ServiceStubs

namespace Registry
variable {registry : Registry}

/-- One turn of the walk: the descriptor that is expanded, where the name in front is not visited
yet, and what is pushed, each name with the descriptor that refers to it. -/
structure Visit where
  expanded : Option Descriptor
  pushed : List (String × String)

def unvisitedChildren (visited : List String) (descriptor : Descriptor) : List (String × String) :=
  (descriptor.children.filter (· ∉ descriptor.name :: visited)).map (·, descriptor.name)

theorem unvisitedChildren_length (visited : List String) (descriptor : Descriptor) :
    (unvisitedChildren visited descriptor).length ≤ descriptor.children.length := by
  rw [unvisitedChildren, List.length_map]
  exact List.length_filter_le _ _

/-- The walk turn by turn: each takes the name in front, skips it where it has been visited, and
else expands what stands for it. -/
inductive WalkRun (registry : Registry) : (visited : List String) → (found : List Descriptor) →
    (pending : List (String × String)) → List Visit →
    Except AssemblyError (List Descriptor) → Prop
  | done {visited : List String} {found : List Descriptor} :
      WalkRun registry visited found [] [] (.ok found)
  | skipped {visited : List String} {found : List Descriptor} {name parent : String}
      {rest : List (String × String)} {visits : List Visit}
      {result : Except AssemblyError (List Descriptor)} (seen : name ∈ visited)
      (later : WalkRun registry visited found rest visits result) :
      WalkRun registry visited found ((name, parent) :: rest) (⟨none, []⟩ :: visits) result
  | failed {visited : List String} {found : List Descriptor} {name parent : String}
      {rest : List (String × String)} (fresh : name ∉ visited)
      (unknown : registry.find? name = none) :
      WalkRun registry visited found ((name, parent) :: rest) [⟨none, []⟩]
        (.error (.unresolvedReference registry.service name parent))
  | expanded {visited : List String} {found : List Descriptor} {descriptor : Descriptor}
      {parent : String} {rest : List (String × String)} {visits : List Visit}
      {result : Except AssemblyError (List Descriptor)} (fresh : descriptor.name ∉ visited)
      (known : registry.find? descriptor.name = some descriptor)
      (later : WalkRun registry (descriptor.name :: visited)
        (Sorted.insert Descriptor.order descriptor found)
        (unvisitedChildren visited descriptor ++ rest) visits result) :
      WalkRun registry visited found ((descriptor.name, parent) :: rest)
        (⟨some descriptor, unvisitedChildren visited descriptor⟩ :: visits) result

theorem children_length_le {descriptors : List Descriptor}
    (distinct : (descriptors.map (·.name)).Nodup)
    (registered : ∀ descriptor ∈ descriptors, descriptor ∈ registry.descriptors) :
    (descriptors.flatMap (·.children)).length ≤
      (registry.descriptors.flatMap (·.children)).length := by
  obtain ⟨arranged, perm, sublist⟩ := subperm_of_registered distinct registered
  rw [← (perm.flatMap_right _).length_eq]
  exact (sublist.flatMap _).length_le

theorem exists_walkRun (registry : Registry) (visited : List String) (found : List Descriptor)
    (pending : List (String × String)) :
    ∃ visits, WalkRun registry visited found pending visits
      (registry.walk visited found pending) := by
  fun_induction walk registry visited found pending with
  | case1 visited found => exact ⟨[], .done⟩
  | case2 visited found name parent rest seen ih =>
      obtain ⟨visits, later⟩ := ih
      exact ⟨_, .skipped seen later⟩
  | case3 visited found name parent rest fresh unknown => exact ⟨_, .failed fresh unknown⟩
  | case4 visited found name parent rest fresh descriptor known seen next ih =>
      obtain rfl := name_of_find? known
      obtain ⟨visits, later⟩ := ih
      exact ⟨_, .expanded fresh known later⟩

def expansions (visits : List Visit) : List Descriptor :=
  visits.filterMap (·.expanded)

namespace WalkRun
variable {visited : List String} {found : List Descriptor} {pending : List (String × String)}
  {visits : List Visit} {result : Except AssemblyError (List Descriptor)}

theorem walk_eq (run : WalkRun registry visited found pending visits result) :
    registry.walk visited found pending = result := by
  induction run with
  | done => rw [walk]
  | skipped seen _ ih => rw [walk, if_pos seen, ih]
  | failed fresh unknown =>
      rw [walk, if_neg fresh]
      split
      · rfl
      · rename_i descriptor known
        cases unknown.symm.trans known
  | expanded fresh known _ ih =>
      rw [walk, if_neg fresh]
      split
      · rename_i unknown
        cases unknown.symm.trans known
      · rename_i descriptor' known'
        cases known.symm.trans known'
        exact ih

theorem registered (run : WalkRun registry visited found pending visits result) :
    ∀ descriptor ∈ expansions visits, descriptor ∈ registry.descriptors := by
  induction run with
  | done | failed => simp [expansions]
  | skipped _ _ ih => exact ih
  | expanded _ known _ ih =>
      exact List.forall_mem_cons.2 ⟨(mem_of_find? known).1, ih⟩

/-- Nothing is expanded that has been visited, and nothing twice. -/
theorem distinct (run : WalkRun registry visited found pending visits result)
    (nodup : visited.Nodup) : ((expansions visits).map (·.name) ++ visited).Nodup := by
  induction run with
  | done | failed => exact nodup
  | skipped _ _ ih => exact ih nodup
  | expanded fresh _ _ ih => exact List.nodup_middle.1 (ih (List.nodup_cons.2 ⟨fresh, nodup⟩))

/-- Each turn takes one of the names that were pending or pushed. -/
theorem length_eq (run : WalkRun registry visited found pending visits result) :
    ∃ left, visits.length + left = pending.length + (visits.flatMap (·.pushed)).length ∧
      ∀ complete, result = .ok complete → left = 0 := by
  induction run with
  | done => exact ⟨0, rfl, fun _ _ => rfl⟩
  | @skipped visited found name parent rest visits result _ _ ih =>
      obtain ⟨left, turns, finished⟩ := ih
      refine ⟨left, ?_, finished⟩
      simp only [List.flatMap_cons, List.nil_append, List.length_cons]
      omega
  | @failed visited found name parent rest => exact ⟨rest.length, by simp [Nat.add_comm], nofun⟩
  | expanded _ _ _ ih =>
      obtain ⟨left, turns, finished⟩ := ih
      refine ⟨left, ?_, finished⟩
      simp only [List.flatMap_cons, List.length_append, List.length_cons] at turns ⊢
      omega

/-- What a walk pushes are children of what it expands. -/
theorem pushed_length_le (run : WalkRun registry visited found pending visits result) :
    (visits.flatMap (·.pushed)).length ≤ ((expansions visits).flatMap (·.children)).length := by
  induction run with
  | done | failed => simp [expansions]
  | skipped _ _ ih => exact ih
  | @expanded visited found descriptor _ _ visits result _ _ _ ih =>
      have pushed := unvisitedChildren_length visited descriptor
      rw [List.flatMap_cons, List.length_append, expansions, List.filterMap_cons,
        List.flatMap_cons, List.length_append]
      exact Nat.add_le_add pushed ih

/-- A walk that succeeds finds what it expands. -/
theorem found_perm (run : WalkRun registry visited found pending visits result)
    (marked : ∀ descriptor ∈ found, descriptor.name ∈ visited) {complete : List Descriptor}
    (succeeds : result = .ok complete) : complete.Perm (expansions visits ++ found) := by
  induction run with
  | done =>
      cases succeeds
      exact List.Perm.refl _
  | skipped _ _ ih => exact ih marked succeeds
  | failed => cases succeeds
  | @expanded visited found descriptor _ _ visits result fresh _ _ ih =>
      have apart : ∀ other ∈ found, descriptor.order other ≠ .eq := fun other member same =>
        fresh (Descriptor.order_eq_iff.1 same ▸ marked other member)
      have added := Sorted.insert_perm apart
      refine (ih (fun other member => ?_) succeeds).trans ?_
      · rcases List.mem_cons.1 (added.mem_iff.1 member) with rfl | earlier
        · exact List.mem_cons_self
        · exact List.mem_cons_of_mem _ (marked other earlier)
      · exact (added.append_left _).trans List.perm_middle

end WalkRun

inductive ReachableRun (registry : Registry) (root : Descriptor) :
    List Visit → Except AssemblyError (List Descriptor) → Prop
  | refused {conflict : AssemblyError}
      (conflicts : registry.checkRegistered root.resolve = .error conflict) :
      ReachableRun registry root [] (.error conflict)
  | walked {visits : List Visit} {result : Except AssemblyError (List Descriptor)}
      (accepted : registry.checkRegistered root.resolve = .ok ())
      (run : WalkRun registry [root.name] [] (root.resolve.children.map (·, root.name)) visits
        result) : ReachableRun registry root visits result

namespace ReachableRun
variable {root : Descriptor} {visits : List Visit}
  {result : Except AssemblyError (List Descriptor)}

theorem reachable_eq (run : ReachableRun registry root visits result) :
    registry.reachable root = result := by
  unfold reachable
  cases run with
  | refused conflicts => simp only [conflicts]
  | walked accepted run =>
      simp only [accepted]
      exact run.walk_eq

theorem registered (run : ReachableRun registry root visits result) :
    ∀ descriptor ∈ expansions visits, descriptor ∈ registry.descriptors := by
  cases run with
  | refused => simp [expansions]
  | walked _ run => exact run.registered

/-- No descriptor is expanded twice, and none of the root's name is expanded. -/
theorem distinct (run : ReachableRun registry root visits result) :
    ((expansions visits).map (·.name) ++ [root.name]).Nodup := by
  cases run with
  | refused => exact List.nodup_singleton _
  | walked _ run => exact run.distinct (List.nodup_singleton _)

theorem length_le (run : ReachableRun registry root visits result) :
    visits.length ≤
      root.children.length + (registry.descriptors.flatMap (·.children)).length := by
  have distinct := (List.nodup_append.1 run.distinct).1
  cases run with
  | refused => exact Nat.zero_le _
  | walked _ run =>
      obtain ⟨left, turns, _⟩ := run.length_eq
      rw [List.length_map, Descriptor.children_resolve] at turns
      have pushed := run.pushed_length_le
      have expanded := children_length_le distinct run.registered
      omega

theorem expansions_perm (run : ReachableRun registry root visits result)
    {found : List Descriptor} (succeeds : result = .ok found) : (expansions visits).Perm found := by
  cases run with
  | refused => cases succeeds
  | walked _ run =>
      have perm := run.found_perm (by simp) succeeds
      rw [List.append_nil] at perm
      exact perm.symm

end ReachableRun

theorem exists_reachableRun (registry : Registry) (root : Descriptor) :
    ∃ visits, ReachableRun registry root visits (registry.reachable root) := by
  have ran : ∃ visits result, ReachableRun registry root visits result := by
    cases accepted : registry.checkRegistered root.resolve with
    | error conflict => exact ⟨_, _, .refused accepted⟩
    | ok _ =>
        obtain ⟨visits, run⟩ := exists_walkRun registry _ _ _
        exact ⟨_, _, .walked accepted run⟩
  obtain ⟨visits, result, run⟩ := ran
  exact ⟨visits, run.reachable_eq ▸ run⟩

/-- Both searches end, whatever cycles the registry has. Flattening pushes no descriptor twice and
takes up, one in each turn, only what it pushes: at most as many as there are names of roots and
registered descriptors, and where it succeeds each of its definitions once. The walk expands no
descriptor twice, and only registered ones; its turns are bounded by the children that it can push,
and where it succeeds it has expanded what it finds. -/
theorem searches_end (registry : Registry) (roots : List Descriptor) (root : Descriptor) :
    ((∃ started turns,
        Flattened.Run registry roots started turns (Flattened.ofRoots registry roots)) ∧
      ∀ started turns result, Flattened.Run registry roots started turns result →
        result = Flattened.ofRoots registry roots ∧
        turns.length ≤ (roots.map (·.name)).dedup.length + registry.descriptors.length ∧
        ((Flattened.pushes started turns).map (·.name)).Nodup ∧
        (turns.map (·.taken)).Subperm (Flattened.pushes started turns) ∧
        ∀ flattened, result = .ok flattened →
          turns.length = flattened.descriptors.length ∧
          (turns.map (·.taken)).Perm flattened.descriptors ∧
          (Flattened.pushes started turns).Perm flattened.descriptors) ∧
    (∃ visits, ReachableRun registry root visits (registry.reachable root)) ∧
      ∀ visits result, ReachableRun registry root visits result →
        result = registry.reachable root ∧
        ((expansions visits).map (·.name) ++ [root.name]).Nodup ∧
        (∀ descriptor ∈ expansions visits, descriptor ∈ registry.descriptors) ∧
        visits.length ≤
          root.children.length + (registry.descriptors.flatMap (·.children)).length ∧
        ∀ found, result = .ok found → (expansions visits).Perm found := by
  refine ⟨⟨Flattened.exists_run registry roots, fun started turns result run => ?_⟩,
    exists_reachableRun registry root, fun visits result run => ?_⟩
  · refine ⟨run.ofRoots_eq.symm, run.length_le, run.pushes_distinct, run.taken_subperm,
      fun flattened succeeds => ?_⟩
    obtain ⟨taken, pushed⟩ := run.taken_perm succeeds
    exact ⟨by simpa using taken.length_eq, taken, pushed⟩
  · exact ⟨run.reachable_eq.symm, run.distinct, run.registered, run.length_le,
      fun found => run.expansions_perm⟩

def barShape : Descriptor :=
  { name := "BarTypeDef", fields := [{ name := "Baz", type := .ref "BazTypeDef" }] }

def bazShape : Descriptor :=
  { name := "BazTypeDef", fields := [{ name := "Bar", type := .ref "BarTypeDef" }] }

def cyclic : Registry where
  service := "foo"
  policy := .strict
  descriptors := [barShape, bazShape]
  increasing := by unfold Sorted.Increasing; decide
  resolved := by unfold Descriptor.IsResolved; decide

def aboveBoth : Descriptor :=
  { name := "FooTypeDef"
    fields := [{ name := "Bar", type := .ref "BarTypeDef" },
      { name := "Baz", type := .ref "BazTypeDef" }] }

/-- `Baz` waits below `Bar` already when `Bar` pushes it again. Its second turn skips it. -/
def visitsAboveBoth : List Visit :=
  [⟨some barShape, [("BazTypeDef", "BarTypeDef")]⟩, ⟨some bazShape, []⟩, ⟨none, []⟩]

theorem aboveBoth_run :
    ReachableRun cyclic aboveBoth visitsAboveBoth (.ok [barShape, bazShape]) := by
  have skipped : WalkRun cyclic ["BazTypeDef", "BarTypeDef", "FooTypeDef"] [barShape, bazShape]
      [("BazTypeDef", "FooTypeDef")] [⟨none, []⟩] (.ok [barShape, bazShape]) :=
    .skipped (by decide) .done
  have second : WalkRun cyclic ["BarTypeDef", "FooTypeDef"] [barShape]
      [("BazTypeDef", "BarTypeDef"), ("BazTypeDef", "FooTypeDef")]
      [⟨some bazShape, []⟩, ⟨none, []⟩] (.ok [barShape, bazShape]) :=
    @WalkRun.expanded _ _ _ bazShape _ _ _ _ (by decide) (by decide) skipped
  have first : WalkRun cyclic ["FooTypeDef"] [] [("BarTypeDef", "FooTypeDef"),
      ("BazTypeDef", "FooTypeDef")] visitsAboveBoth (.ok [barShape, bazShape]) :=
    @WalkRun.expanded _ _ _ barShape _ _ _ _ (by decide) (by decide) second
  exact .walked rfl first

theorem aboveBoth_expandedOnce :
    ¬ (aboveBoth.children ++ (visitsAboveBoth.flatMap (·.pushed)).map (·.1)).Nodup ∧
      cyclic.reachable aboveBoth = .ok [barShape, bazShape] ∧
      (expansions visitsAboveBoth).Perm [barShape, bazShape] ∧
      visitsAboveBoth.length ≤
        aboveBoth.children.length + (cyclic.descriptors.flatMap (·.children)).length := by
  obtain ⟨_, _, walks⟩ := searches_end cyclic [] aboveBoth
  obtain ⟨same, _, _, bounded, found⟩ := walks _ _ aboveBoth_run
  exact ⟨by decide, same.symm, found _ rfl, bounded⟩

end Registry

end ServiceStubs
