import ServiceStubs.Proofs.Roots
/-!
What flattening components comes to. Their references are looked up first, so
nothing can conflict: flattening succeeds exactly when every reached name is
registered, and the definitions are the registered descriptors of the reached
names.
-/

namespace ServiceStubs

namespace Flattened

section Components
variable {registry : Registry}

/-- From registered roots a search never conflicts, and it only sees what is registered. -/
theorem ofRoots_of_registered {roots : List Descriptor}
    (registered : ∀ root ∈ roots, registry.find? root.name = some root) :
    Outcome registry.service registry.find? (· ∈ roots.map (·.name)) (ofRoots registry roots) := by
  obtain ⟨work, accepted, done⟩ := Work.exists_taken registered
  have outcome := ofRoots_of_taken accepted done
  rwa [Registry.map_resolve_of_registered registered,
    Registry.standing_of_registered registered] at outcome

theorem ofRoots_nil (registry : Registry) : ofRoots registry [] = .ok {} := by
  simp [ofRoots, Sorted.sort, Work.acceptAll, Work.explore, Work.finish]

def Exposes (components : List ClassOutline) (name : String) : Prop :=
  ∃ component ∈ components, .ref name ∈ component.types

theorem mem_exposed {components : List ClassOutline} {name : String} :
    name ∈ (exposed components).map Prod.fst ↔ Exposes components name := by
  have byName : ∀ a b : String × String, compare a.1 b.1 = .eq ↔ a.1 = b.1 :=
    fun _ _ => Std.LawfulEqOrd.compare_eq_iff_eq
  rw [exposed, Sorted.mem_keys_ofList byName]
  simp only [List.mem_map, List.mem_reverse, List.mem_flatMap, List.mem_filterMap]
  constructor
  · rintro ⟨referral, ⟨component, member, type, used, made⟩, rfl⟩
    cases type <;> simp at made
    exact ⟨component, member, made ▸ used⟩
  · rintro ⟨component, member, used⟩
    exact ⟨(name, component.name), ⟨component, member, .ref name, used, rfl⟩, rfl⟩

theorem lookUpAll_spec (registry : Registry) (referrals : List (String × String)) :
    match lookUpAll registry referrals with
    | .ok roots => roots.map (·.name) = referrals.map Prod.fst ∧
        ∀ root ∈ roots, registry.find? root.name = some root
    | .error unresolved => ∃ before referral after, referrals = before ++ referral :: after ∧
        (∀ earlier ∈ before, registry.contains earlier.1) ∧ registry.find? referral.1 = none ∧
        unresolved = .unresolvedReference registry.service referral.1 referral.2 := by
  induction referrals with
  | nil => simp [lookUpAll]
  | cons referral rest ih =>
      obtain ⟨name, component⟩ := referral
      cases known : registry.find? name with
      | none =>
          simp only [lookUpAll, Registry.get, known]
          exact ⟨[], (name, component), rest, rfl, by simp, known, rfl⟩
      | some descriptor =>
          obtain rfl := Registry.name_of_find? known
          cases ended : lookUpAll registry rest with
          | error unresolved =>
              rw [ended] at ih
              obtain ⟨before, referral, after, rfl, passed, unknown, reported⟩ := ih
              simp only [lookUpAll, Registry.get, known, ended]
              refine ⟨_ :: before, referral, after, rfl, fun earlier member => ?_, unknown, reported⟩
              rcases List.mem_cons.1 member with rfl | deeper
              · exact Registry.contains_iff.2 ⟨descriptor, known⟩
              · exact passed earlier deeper
          | ok roots =>
              rw [ended] at ih
              obtain ⟨names, registered⟩ := ih
              simp only [lookUpAll, Registry.get, known, ended]
              refine ⟨by simp [names], fun root member => ?_⟩
              rcases List.mem_cons.1 member with rfl | later
              · exact known
              · exact registered root later

/-- Flattening components is a search from the names they expose, unless one of these is not
registered, which is then reported. -/
theorem ofComponents_cases (registry : Registry) (components : List ClassOutline) :
    Outcome registry.service registry.find? (Exposes components)
        (ofComponents registry components) ∨
      ∃ name component, Exposes components name ∧ registry.find? name = none ∧
        ofComponents registry components =
          .error (.unresolvedReference registry.service name component) := by
  have looked := lookUpAll_spec registry (exposed components)
  unfold ofComponents
  cases ended : lookUpAll registry (exposed components) with
  | error unresolved =>
      rw [ended] at looked
      obtain ⟨before, referral, after, split, _, unknown, rfl⟩ := looked
      have member : referral ∈ exposed components := by rw [split]; simp
      have named := mem_exposed.1 (List.mem_map.2 ⟨referral, member, rfl⟩)
      exact Or.inr ⟨referral.1, referral.2, named, unknown, rfl⟩
  | ok roots =>
      rw [ended] at looked
      obtain ⟨names, registered⟩ := looked
      have starts : (· ∈ roots.map (·.name)) = Exposes components := by
        funext name
        rw [names, mem_exposed]
      exact Or.inl (starts ▸ ofRoots_of_registered registered)

theorem ofComponents_ok_iff (registry : Registry) (components : List ClassOutline) :
    (∃ flattened, ofComponents registry components = .ok flattened) ↔
      ∀ name, Reached registry.find? (Exposes components) name → registry.contains name := by
  simp only [Registry.contains_iff]
  rcases ofComponents_cases registry components with
    outcome | ⟨name, component, named, unknown, failed⟩
  · exact outcome.ok_iff
  · constructor
    · rintro ⟨flattened, succeeded⟩
      rw [failed] at succeeded
      cases succeeded
    · intro complete
      obtain ⟨descriptor, known⟩ := complete name (Reached.start named)
      rw [unknown] at known
      cases known

theorem ofComponents_closure {registry : Registry} {components : List ClassOutline}
    {flattened : Flattened} (succeeded : ofComponents registry components = .ok flattened) :
    Closure registry.find? (Exposes components) flattened := by
  rcases ofComponents_cases registry components with outcome | ⟨_, _, _, _, failed⟩
  · rwa [succeeded] at outcome
  · rw [succeeded] at failed
    cases failed

theorem ofComponents_not_nameConflict (registry : Registry) (components : List ClassOutline)
    (service name : String) :
    ofComponents registry components ≠ .error (.nameConflict service name) := by
  rcases ofComponents_cases registry components with outcome | ⟨_, _, _, _, failed⟩
  · exact outcome.not_nameConflict service name
  · rw [failed]
    rintro ⟨⟩

/-- Flattening components succeeds exactly when every name reached from what they expose is
registered. The definitions are then the registered descriptors of those names, in name order;
the names that components expose are presented directly, the others are forward references. A
conflict is never reported. -/
theorem ofComponents_exact (registry : Registry) (components : List ClassOutline) :
    ((∃ flattened, ofComponents registry components = .ok flattened) ↔
      ∀ name, Reached registry.find? (Exposes components) name → registry.contains name) ∧
    (∀ flattened, ofComponents registry components = .ok flattened →
      Sorted.Increasing Descriptor.order flattened.descriptors ∧
      (∀ name, name ∈ flattened.names ↔ Reached registry.find? (Exposes components) name) ∧
      (∀ descriptor ∈ flattened.descriptors,
        registry.find? descriptor.name = some descriptor ∧ descriptor.IsResolved) ∧
      flattened.presentation.entries.map Prod.fst = flattened.names ∧
      ∀ name mode, (name, mode) ∈ flattened.presentation.entries →
        (mode = .direct ↔ Exposes components name)) ∧
    ∀ service name, ofComponents registry components ≠ .error (.nameConflict service name) := by
  refine ⟨ofComponents_ok_iff registry components, fun flattened succeeded => ?_,
    ofComponents_not_nameConflict registry components⟩
  have closure := ofComponents_closure succeeded
  refine ⟨closure.increasing, closure.mem_names_iff, fun descriptor member => ?_, ?_, ?_⟩
  · have known := closure.standing descriptor member
    exact ⟨known, Registry.isResolved_of_find? known⟩
  · exact closure.presents.keys_eq (Work.names_increasing closure.increasing)
  · intro name mode listed
    exact ((closure.presents.mem_iff name mode).1 listed).2

end Components

end Flattened

/-!
The walk from one descriptor, step by step, and what it has in common with
flattening from that descriptor alone. The walk marks a name when it takes it
up, so a name may be pending twice; the flattener marks it when it is first
found. Both end with the names that are reached, the walk without its root.
-/

namespace Registry
variable {registry : Registry} {root : Descriptor}

/-- What holds of a walk from `root` between two steps. The children of what has been visited
are visited or pending; what is pending is a child of something reached. -/
structure Walking (registry : Registry) (root : Descriptor) (visited : List String)
    (found : List Descriptor) (pending : List (String × String)) : Prop where
  increasing : Sorted.Increasing Descriptor.order found
  distinct : ((root :: found).map (·.name)).Nodup
  visited_iff : ∀ name, name ∈ visited ↔ name ∈ (root :: found).map (·.name)
  standing : ∀ descriptor ∈ root :: found,
    registry.standing [root] descriptor.name = some descriptor
  reached : ∀ descriptor ∈ root :: found, registry.ReachedFrom [root] descriptor.name
  pending_child : ∀ entry ∈ pending, ∃ parent, registry.ReachedFrom [root] entry.2 ∧
    registry.standing [root] entry.2 = some parent ∧ entry.1 ∈ parent.children
  expanded : ∀ descriptor ∈ root :: found, ∀ child ∈ descriptor.children,
    child ∈ visited ∨ child ∈ pending.map Prod.fst

/-- What a walk comes to: all that is reached, in name order, or a child that stands for
nothing. -/
def Walked (registry : Registry) (root : Descriptor) :
    Except AssemblyError (List Descriptor) → Prop
  | .ok found => Sorted.Increasing Descriptor.order found ∧
      ((root :: found).map (·.name)).Nodup ∧
      (∀ descriptor ∈ root :: found,
        registry.standing [root] descriptor.name = some descriptor) ∧
      ∀ name, name ∈ (root :: found).map (·.name) ↔ registry.ReachedFrom [root] name
  | .error unresolved => Unresolved registry.service (registry.standing [root])
      (· ∈ [root].map (·.name)) unresolved

section Steps
variable {visited : List String} {found : List Descriptor} {pending : List (String × String)}

theorem walking_start (registry : Registry) (root : Descriptor) :
    Walking registry root [root.name] [] (root.children.map (·, root.name)) where
  increasing := List.Pairwise.nil
  distinct := by simp
  visited_iff := fun name => Iff.rfl
  standing := by
    intro descriptor member
    exact standing_of_mem (by simp) member
  reached := by
    intro descriptor member
    exact Reached.start (List.mem_map.2 ⟨descriptor, member, rfl⟩)
  pending_child := by
    intro entry member
    obtain ⟨child, listed, rfl⟩ := List.mem_map.1 member
    refine ⟨root, Reached.start (by simp), standing_of_mem (by simp) (by simp), listed⟩
  expanded := by
    intro descriptor member child listed
    obtain rfl := List.mem_singleton.1 member
    exact Or.inr (by simpa using listed)

theorem Walking.skip {name parent : String}
    (walking : Walking registry root visited found ((name, parent) :: pending))
    (seen : name ∈ visited) : Walking registry root visited found pending where
  increasing := walking.increasing
  distinct := walking.distinct
  visited_iff := walking.visited_iff
  standing := walking.standing
  reached := walking.reached
  pending_child := fun entry member =>
    walking.pending_child entry (List.mem_cons_of_mem _ member)
  expanded := by
    intro descriptor member child listed
    rcases walking.expanded descriptor member child listed with already | waiting
    · exact Or.inl already
    · rcases List.mem_cons.1 waiting with rfl | later
      · exact Or.inl seen
      · exact Or.inr later

theorem Walking.standing_fresh (walking : Walking registry root visited found pending)
    {name : String} (fresh : name ∉ visited) :
    registry.standing [root] name = registry.find? name := by
  refine standing_of_not_mem fun member => fresh ?_
  refine (walking.visited_iff name).2 (List.mem_cons.2 (Or.inl ?_))
  simpa using member

theorem Walking.reached_pending (walking : Walking registry root visited found pending)
    {entry : String × String} (member : entry ∈ pending) :
    registry.ReachedFrom [root] entry.1 := by
  obtain ⟨parent, reached, stands, child⟩ := walking.pending_child entry member
  exact Reached.child reached stands child

theorem Walking.insert_perm (walking : Walking registry root visited found pending)
    {descriptor : Descriptor} (fresh : descriptor.name ∉ visited) :
    (root :: Sorted.insert Descriptor.order descriptor found).Perm
      (descriptor :: root :: found) := by
  have apart : ∀ other ∈ found, Descriptor.order descriptor other ≠ .eq := by
    intro other member same
    refine fresh ((walking.visited_iff _).2 (List.mem_cons_of_mem _ ?_))
    exact List.mem_map.2 ⟨other, member, (Descriptor.order_eq_iff.1 same).symm⟩
  exact ((Sorted.insert_perm apart).cons root).trans (List.Perm.swap descriptor root found)

/-- Visiting a name adds its descriptor, and puts in front the children not visited yet. -/
theorem Walking.visit {descriptor : Descriptor} {parent : String}
    (walking : Walking registry root visited found ((descriptor.name, parent) :: pending))
    (fresh : descriptor.name ∉ visited)
    (known : registry.find? descriptor.name = some descriptor) :
    Walking registry root (descriptor.name :: visited)
      (Sorted.insert Descriptor.order descriptor found)
      ((descriptor.children.filter (· ∉ descriptor.name :: visited)).map (·, descriptor.name)
        ++ pending) := by
  -- Up to order the descriptor is put in front, so each part is about it or about earlier ones.
  have added := walking.insert_perm fresh
  have stands : registry.standing [root] descriptor.name = some descriptor :=
    (walking.standing_fresh fresh).trans known
  have reached := walking.reached_pending (List.mem_cons_self)
  refine ⟨walking.increasing.insert descriptor, ?_, ?_, ?_, ?_, ?_, ?_⟩
  · refine (added.map (·.name)).nodup_iff.2 (List.nodup_cons.2 ⟨?_, walking.distinct⟩)
    exact fun member => fresh ((walking.visited_iff _).2 member)
  · intro name
    rw [(added.map (·.name)).mem_iff, List.map_cons, List.mem_cons, List.mem_cons,
      walking.visited_iff]
  · intro other member
    rcases List.mem_cons.1 (added.mem_iff.1 member) with rfl | earlier
    · exact stands
    · exact walking.standing other earlier
  · intro other member
    rcases List.mem_cons.1 (added.mem_iff.1 member) with rfl | earlier
    · exact reached
    · exact walking.reached other earlier
  · intro entry member
    rcases List.mem_append.1 member with next | later
    · obtain ⟨child, listed, rfl⟩ := List.mem_map.1 next
      exact ⟨descriptor, reached, stands, (List.mem_filter.1 listed).1⟩
    · exact walking.pending_child entry (List.mem_cons_of_mem _ later)
  · intro other member child listed
    by_cases seen : child ∈ descriptor.name :: visited
    · exact Or.inl seen
    · rw [List.map_append, List.mem_append]
      rcases List.mem_cons.1 (added.mem_iff.1 member) with rfl | earlier
      · have next : child ∈ other.children.filter (· ∉ other.name :: visited) :=
          List.mem_filter.2 ⟨listed, by simpa using seen⟩
        exact Or.inr (Or.inl (by simpa using next))
      · rcases walking.expanded other earlier child listed with already | waiting
        · exact absurd (List.mem_cons_of_mem _ already) seen
        · rcases List.mem_cons.1 waiting with rfl | later
          · exact absurd List.mem_cons_self seen
          · exact Or.inr (Or.inr later)

theorem Walking.walked (walking : Walking registry root visited found []) :
    Walked registry root (.ok found) := by
  refine ⟨walking.increasing, walking.distinct, walking.standing, fun name => ⟨?_, ?_⟩⟩
  · intro member
    obtain ⟨descriptor, listed, rfl⟩ := List.mem_map.1 member
    exact walking.reached descriptor listed
  · apply Reached.mem_of_closed
    · intro first member
      exact List.mem_cons.2 (Or.inl (by simpa using member))
    · intro parent descriptor member stands child listed
      obtain ⟨visitedParent, parentMember, rfl⟩ := List.mem_map.1 member
      obtain rfl : visitedParent = descriptor :=
        Option.some.inj ((walking.standing visitedParent parentMember).symm.trans stands)
      rcases walking.expanded visitedParent parentMember child listed with already | impossible
      · exact (walking.visited_iff child).1 already
      · cases impossible

theorem walk_spec (walking : Walking registry root visited found pending) :
    Walked registry root (registry.walk visited found pending) := by
  fun_induction walk registry visited found pending with
  | case1 visited found => exact walking.walked
  | case2 visited found name parent rest seen ih => exact ih (walking.skip seen)
  | case3 visited found name parent rest fresh unknown =>
      obtain ⟨referring, reached, stands, child⟩ := walking.pending_child _ List.mem_cons_self
      exact ⟨parent, referring, name, reached, stands, child,
        (walking.standing_fresh fresh).trans unknown, rfl⟩
  | case4 visited found name parent rest fresh descriptor known seen next ih =>
      obtain rfl := name_of_find? known
      exact ih (walking.visit fresh known)

end Steps

theorem Walked.ok_iff {result : Except AssemblyError (List Descriptor)}
    (walked : Walked registry root result) :
    (∃ found, result = .ok found) ↔
      ∀ name, registry.ReachedFrom [root] name →
        ∃ descriptor, registry.standing [root] name = some descriptor := by
  cases result with
  | ok found =>
      obtain ⟨_, _, standing, names⟩ := walked
      refine ⟨fun _ name reached => ?_, fun _ => ⟨found, rfl⟩⟩
      obtain ⟨descriptor, member, rfl⟩ := List.mem_map.1 ((names name).2 reached)
      exact ⟨descriptor, standing descriptor member⟩
  | error unresolved =>
      exact iff_of_false (fun ⟨_, impossible⟩ => nomatch impossible) walked.not_complete

theorem Walked.not_nameConflict {result : Except AssemblyError (List Descriptor)}
    (walked : Walked registry root result) (service name : String) :
    result ≠ .error (.nameConflict service name) := by
  rintro rfl
  exact walked.ne_nameConflict service name rfl

theorem reachable_spec (accepted : registry.checkRegistered root.resolve = .ok ()) :
    Walked registry root.resolve (registry.reachable root) := by
  unfold reachable
  simp only [accepted]
  exact walk_spec (walking_start registry root.resolve)

end Registry

namespace Flattened
variable {registry : Registry} {root : Descriptor}

theorem ofRoots_singleton (accepted : registry.checkRegistered root.resolve = .ok ()) :
    Outcome registry.service (registry.standing [root.resolve]) (· ∈ [root.resolve].map (·.name))
      (ofRoots registry [root]) := by
  have taken : Work.acceptAll registry (Sorted.sort Descriptor.order [root]) {} =
      .ok (Work.push {} root.resolve .direct) := by
    simp [Sorted.sort, Work.acceptAll, Work.accept, Work.last?, accepted]
  exact ofRoots_of_acceptAll taken (Work.started_empty.push (by simp [Work.foundNames]))

theorem ofRoots_singleton_conflict {conflict : AssemblyError}
    (rejected : registry.checkRegistered root.resolve = .error conflict) :
    ofRoots registry [root] = .error conflict := by
  simp [ofRoots, Sorted.sort, Work.acceptAll, Work.accept, Work.last?, rejected]

/-- A walk and a closure from the same root have the same names, the walk without the root's,
and the same descriptor under each of them. -/
theorem Closure.agrees_walked {flattened : Flattened} {found : List Descriptor}
    (closure : Closure (registry.standing [root]) (· ∈ [root].map (·.name)) flattened)
    (walked : Registry.Walked registry root (.ok found)) :
    flattened.names.Perm (root.name :: found.map (·.name)) ∧
      ∀ name, name ≠ root.name → flattened.get? name = found.find? (·.name == name) := by
  obtain ⟨_, distinct, standing, names⟩ := walked
  have same : ∀ name, name ∈ flattened.names ↔ name ∈ (root :: found).map (·.name) :=
    fun name => (closure.mem_names_iff name).trans (names name).symm
  constructor
  · exact (List.perm_ext_iff_of_nodup (Descriptor.names_nodup closure.increasing) distinct).2 same
  · intro name other
    have passed : (root :: found).find? (·.name == name) = found.find? (·.name == name) :=
      List.find?_cons_of_neg (by simpa using other.symm)
    rw [← passed]
    by_cases listed : name ∈ flattened.names
    · exact (Descriptor.find?_of_standing closure.standing listed).trans
        (Descriptor.find?_of_standing standing ((same name).1 listed)).symm
    · exact (Descriptor.find?_of_not_mem listed).trans
        (Descriptor.find?_of_not_mem fun member => listed ((same name).2 member)).symm

/-- The walk from a descriptor and flattening from that descriptor alone succeed on the same
inputs, conflict on the same inputs, and find the same descriptors. -/
theorem reachable_agrees_ofRoots (registry : Registry) (root : Descriptor) :
    ((∃ found, registry.reachable root = .ok found) ↔
      ∃ flattened, ofRoots registry [root] = .ok flattened) ∧
    (∀ service name, registry.reachable root = .error (.nameConflict service name) ↔
      ofRoots registry [root] = .error (.nameConflict service name)) ∧
    ∀ found flattened, registry.reachable root = .ok found →
      ofRoots registry [root] = .ok flattened →
      flattened.names.Perm (root.name :: found.map (·.name)) ∧
      ∀ name, name ≠ root.name → flattened.get? name = found.find? (·.name == name) := by
  cases checked : registry.checkRegistered root.resolve with
  | error conflict =>
      have walkFails : registry.reachable root = .error conflict := by
        simp [Registry.reachable, checked]
      rw [walkFails, ofRoots_singleton_conflict checked]
      simp
  | ok accepted =>
      have walked := Registry.reachable_spec checked
      have outcome := ofRoots_singleton checked
      refine ⟨walked.ok_iff.trans outcome.ok_iff.symm, fun service name => ?_, ?_⟩
      · exact iff_of_false (walked.not_nameConflict service name)
          (outcome.not_nameConflict service name)
      · intro found flattened walkEnds flattenEnds
        rw [walkEnds] at walked
        rw [flattenEnds] at outcome
        exact outcome.agrees_walked walked

end Flattened

end ServiceStubs
