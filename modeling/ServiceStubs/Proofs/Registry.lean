import ServiceStubs.Proofs.TypeExpr
import ServiceStubs.Registry
/-!
Looking names up in a registry. A registry has one descriptor for each name and
every descriptor in it is resolved, so looking a registered descriptor up by
its own name gives it back, and it passes its own check.
-/

namespace ServiceStubs

theorem Descriptor.mem_names_iff_find? {descriptors : List Descriptor} {name : String} :
    name ∈ descriptors.map (·.name) ↔ (descriptors.find? (·.name == name)).isSome := by
  rw [List.find?_isSome]
  simp

theorem Descriptor.find?_eq_some_of_mem {descriptors : List Descriptor} {descriptor : Descriptor}
    (distinct : (descriptors.map (·.name)).Nodup) (member : descriptor ∈ descriptors) :
    descriptors.find? (·.name == descriptor.name) = some descriptor :=
  Sorted.find?_key_of_mem distinct member

theorem Descriptor.find?_of_standing {lookUp : String → Option Descriptor}
    {descriptors : List Descriptor}
    (standing : ∀ descriptor ∈ descriptors, lookUp descriptor.name = some descriptor)
    {name : String} (listed : name ∈ descriptors.map (·.name)) :
    descriptors.find? (·.name == name) = lookUp name := by
  obtain ⟨descriptor, member, same⟩ := List.mem_map.1 listed
  cases given : descriptors.find? (·.name == name) with
  | none =>
      have differs := List.find?_eq_none.1 given descriptor member
      exact absurd (by simpa using same) differs
  | some first =>
      have firstName : first.name = name := by simpa using List.find?_some given
      rw [← standing first (List.mem_of_find?_eq_some given), firstName]

theorem Descriptor.find?_of_not_mem {descriptors : List Descriptor} {name : String}
    (absent : name ∉ descriptors.map (·.name)) : descriptors.find? (·.name == name) = none := by
  refine List.find?_eq_none.2 fun descriptor member same => absent ?_
  exact List.mem_map.2 ⟨descriptor, member, by simpa using same⟩

theorem Descriptor.names_nodup {descriptors : List Descriptor}
    (increasing : Sorted.Increasing Descriptor.order descriptors) :
    (descriptors.map (·.name)).Nodup := by
  refine List.pairwise_map.2 (List.Pairwise.imp (fun before same => ?_) increasing)
  have equal := Descriptor.order_eq_iff.2 same
  rw [before] at equal
  cases equal

namespace Registry
variable {registry : Registry} {name : String} {descriptor : Descriptor}

theorem name_of_find? (known : registry.find? name = some descriptor) : descriptor.name = name :=
  (mem_of_find? known).2

theorem isResolved_of_find? (known : registry.find? name = some descriptor) :
    descriptor.IsResolved :=
  registry.resolved descriptor (mem_of_find? known).1

theorem contains_iff :
    registry.contains name ↔ ∃ descriptor, registry.find? name = some descriptor :=
  Option.isSome_iff_exists

theorem checkDuplicate_self (registry : Registry) (descriptor : Descriptor) :
    registry.checkDuplicate descriptor descriptor = .ok () := by
  simp [checkDuplicate, Descriptor.agrees_self]

theorem checkRegistered_of_registered (known : registry.find? descriptor.name = some descriptor) :
    registry.checkRegistered descriptor = .ok () := by
  simp [checkRegistered, known, checkDuplicate_self]

end Registry

/-!
The names that follow from some names when references are followed. What a name
stands for is a parameter: in a search from given roots a root goes before the
registered descriptor of its name, for it is the root whose children count.
-/

/-- What is reached from the names in `start`, where `lookUp` says what a name stands for. -/
inductive Reached (lookUp : String → Option Descriptor) (start : String → Prop) : String → Prop
  | start {name : String} : start name → Reached lookUp start name
  | child {name child : String} {descriptor : Descriptor} : Reached lookUp start name →
      lookUp name = some descriptor → child ∈ descriptor.children → Reached lookUp start child

namespace Reached
variable {lookUp : String → Option Descriptor} {start : String → Prop}

/-- A set of names that has every start and every child of its members has all that is reached. -/
theorem mem_of_closed {found : String → Prop} (starts : ∀ name, start name → found name)
    (closed : ∀ name descriptor, found name → lookUp name = some descriptor →
      ∀ child ∈ descriptor.children, found child)
    {name : String} (reached : Reached lookUp start name) : found name := by
  induction reached with
  | start first => exact starts _ first
  | child _ stands member ih => exact closed _ _ ih stands _ member

/-- Where a list has every start and every child of what is in it, it has all that is reached. -/
theorem mem_of_closedList {found : List String} (starts : ∀ name, start name → name ∈ found)
    (closed : ∀ name ∈ found, ∀ child ∈ ((lookUp name).map (·.children)).getD [], child ∈ found)
    {name : String} (reached : Reached lookUp start name) : name ∈ found := by
  refine reached.mem_of_closed starts fun parent descriptor member stands child below => ?_
  exact closed parent member child (by simpa [stands] using below)

end Reached

def Unresolved (service : String) (lookUp : String → Option Descriptor) (start : String → Prop)
    (error : AssemblyError) : Prop :=
  ∃ parent descriptor child, Reached lookUp start parent ∧ lookUp parent = some descriptor ∧
    child ∈ descriptor.children ∧ lookUp child = none ∧
    error = .unresolvedReference service child parent

section Unresolved
variable {service : String} {lookUp : String → Option Descriptor} {start : String → Prop}
  {error : AssemblyError}

theorem Unresolved.not_complete (unresolved : Unresolved service lookUp start error) :
    ¬ ∀ name, Reached lookUp start name → ∃ descriptor, lookUp name = some descriptor := by
  obtain ⟨parent, descriptor, child, reached, stands, member, absent, -⟩ := unresolved
  intro complete
  obtain ⟨found, known⟩ := complete child (Reached.child reached stands member)
  rw [absent] at known
  cases known

theorem Unresolved.ne_nameConflict (unresolved : Unresolved service lookUp start error)
    (conflicting name : String) : error ≠ .nameConflict conflicting name := by
  rintro rfl
  obtain ⟨_, _, _, _, _, _, _, reported⟩ := unresolved
  cases reported

end Unresolved

namespace Registry

def standing (registry : Registry) (roots : List Descriptor) (name : String) : Option Descriptor :=
  (roots.find? (·.name == name)).or (registry.find? name)

def ReachedFrom (registry : Registry) (roots : List Descriptor) (name : String) : Prop :=
  Reached (registry.standing roots) (· ∈ roots.map (·.name)) name

variable {registry : Registry} {roots : List Descriptor} {name : String} {descriptor : Descriptor}

theorem standing_of_mem (distinct : (roots.map (·.name)).Nodup) (member : descriptor ∈ roots) :
    registry.standing roots descriptor.name = some descriptor := by
  simp [standing, Descriptor.find?_eq_some_of_mem distinct member]

theorem standing_of_not_mem (absent : name ∉ roots.map (·.name)) :
    registry.standing roots name = registry.find? name := by
  simp [standing, Descriptor.find?_of_not_mem absent]

theorem standing_of_registered (registered : ∀ root ∈ roots, registry.find? root.name = some root) :
    registry.standing roots = registry.find? := by
  funext name
  cases given : roots.find? (·.name == name) with
  | none => simp [standing, given]
  | some root =>
      have same : root.name = name := by simpa using List.find?_some given
      have known := registered root (List.mem_of_find?_eq_some given)
      rw [same] at known
      simp [standing, given, known]

theorem isResolved_of_standing (resolved : ∀ root ∈ roots, root.IsResolved)
    (stands : registry.standing roots name = some descriptor) : descriptor.IsResolved := by
  rcases Option.or_eq_some_iff.1 stands with given | ⟨_, known⟩
  · exact resolved descriptor (List.mem_of_find?_eq_some given)
  · exact isResolved_of_find? known

end Registry

/-!
Registering descriptors one after the other. Under each name the first
descriptor stays, resolved; the later ones of that name only decide whether the
registration fails. The strict policy and the lenient one register the same
where neither fails.
-/

theorem Descriptor.find?_insert (descriptor : Descriptor) (name : String)
    (descriptors : List Descriptor) :
    (Sorted.insert Descriptor.order descriptor descriptors).find? (·.name == name) =
      if descriptor.name = name then some descriptor
      else descriptors.find? (·.name == name) := by
  induction descriptors with
  | nil =>
      by_cases same : descriptor.name = name <;> simp [Sorted.insert, same]
  | cons known rest ih =>
      unfold Sorted.insert
      cases placed : Descriptor.order descriptor known with
      | lt =>
          by_cases same : descriptor.name = name <;> simp [same]
      | eq =>
          have equal : descriptor.name = known.name := Descriptor.order_eq_iff.1 placed
          by_cases same : descriptor.name = name <;> simp [← equal, same]
      | gt =>
          have apart : descriptor.name ≠ known.name := fun equal => by
            rw [Descriptor.order_eq_iff.2 equal] at placed
            cases placed
          by_cases first : known.name = name
          · have other : descriptor.name ≠ name := fun same => apart (same.trans first.symm)
            simp [first, other]
          · simp [first, ih]

namespace Registry
variable {registry grown : Registry} {existing duplicate descriptor : Descriptor}
  {descriptors : List Descriptor}

theorem checkDuplicate_cases (registry : Registry) (existing duplicate : Descriptor) :
    (registry.checkDuplicate existing duplicate = .ok () ∧
      (existing.agrees duplicate ∨ registry.policy = .firstWins)) ∨
    (registry.checkDuplicate existing duplicate =
        .error (.nameConflict registry.service duplicate.name) ∧
      ¬ existing.agrees duplicate ∧ registry.policy = .strict) := by
  unfold checkDuplicate
  by_cases agree : existing.agrees duplicate
  · simp [agree]
  · cases policy : registry.policy <;> simp [agree]

theorem checkDuplicate_of_firstWins (lenient : registry.policy = .firstWins)
    (existing duplicate : Descriptor) : registry.checkDuplicate existing duplicate = .ok () := by
  rcases registry.checkDuplicate_cases existing duplicate with ⟨dropped, _⟩ | ⟨_, _, strict⟩
  · exact dropped
  · rw [strict] at lenient
    cases lenient

theorem find?_add (registry : Registry) (descriptor : Descriptor) (name : String) :
    (registry.add descriptor).find? name =
      if descriptor.name = name then some descriptor.resolve else registry.find? name :=
  Descriptor.find?_insert descriptor.resolve name registry.descriptors

/-- A registration that succeeds drops the descriptor for a known one, or else adds it. -/
theorem insert_cases (inserted : registry.insert descriptor = (grown, .ok ())) :
    (∃ first, registry.find? descriptor.name = some first ∧
      registry.checkDuplicate first descriptor.resolve = .ok () ∧ grown = registry) ∨
    (registry.find? descriptor.name = none ∧ grown = registry.add descriptor) := by
  unfold insert at inserted
  cases known : registry.find? descriptor.name with
  | none =>
      simp only [known, Prod.mk.injEq, and_true] at inserted
      exact Or.inr ⟨rfl, inserted.symm⟩
  | some first =>
      simp only [known, Prod.mk.injEq] at inserted
      exact Or.inl ⟨first, rfl, inserted.2, inserted.1.symm⟩

theorem insertAll_cons
    (inserted : registry.insertAll (descriptor :: descriptors) = (grown, .ok ())) :
    ∃ next, registry.insert descriptor = (next, .ok ()) ∧
      next.insertAll descriptors = (grown, .ok ()) := by
  unfold insertAll at inserted
  split at inserted
  · rename_i next taken
    exact ⟨next, taken, inserted⟩
  · cases inserted

theorem ofDescriptors_eq_ok_iff {service : String} {policy : DuplicatePolicy} :
    ofDescriptors service policy descriptors = .ok registry ↔
      (empty service policy).insertAll descriptors = (registry, .ok ()) := by
  unfold ofDescriptors
  split
  · rename_i reached inserted
    simp [inserted]
  · rename_i reached conflict stopped
    simp [stopped]

theorem ofDescriptors_eq_error_iff {service : String} {policy : DuplicatePolicy}
    {problem : AssemblyError} :
    ofDescriptors service policy descriptors = .error problem ↔
      ((empty service policy).insertAll descriptors).2 = .error problem := by
  unfold ofDescriptors
  split
  · rename_i reached inserted
    simp [inserted]
  · rename_i reached conflict stopped
    simp [stopped]

theorem insertAll_settings (inserted : registry.insertAll descriptors = (grown, .ok ())) :
    grown.service = registry.service ∧ grown.policy = registry.policy := by
  induction descriptors generalizing registry with
  | nil =>
      cases inserted
      exact ⟨rfl, rfl⟩
  | cons descriptor rest ih =>
      obtain ⟨next, taken, later⟩ := insertAll_cons inserted
      have kept := ih later
      rcases insert_cases taken with ⟨_, _, _, rfl⟩ | ⟨_, rfl⟩ <;> exact kept

/-- Under a name stands what was registered before, or else the first of the descriptors. -/
theorem find?_insertAll (inserted : registry.insertAll descriptors = (grown, .ok ()))
    (name : String) :
    grown.find? name = (registry.find? name).or
      ((descriptors.find? (·.name == name)).map Descriptor.resolve) := by
  induction descriptors generalizing registry with
  | nil =>
      cases inserted
      simp
  | cons descriptor rest ih =>
      obtain ⟨next, taken, later⟩ := insertAll_cons inserted
      rw [ih later]
      rcases insert_cases taken with ⟨first, known, _, rfl⟩ | ⟨unknown, rfl⟩
      · by_cases same : descriptor.name = name
        · simp [← same, known]
        · simp [same]
      · rw [find?_add]
        by_cases same : descriptor.name = name
        · simp [← same, unknown]
        · simp [same]

theorem insertAll_of_distinct (distinct : (descriptors.map (·.name)).Nodup)
    (fresh : ∀ descriptor ∈ descriptors, registry.find? descriptor.name = none) :
    ∃ grown, registry.insertAll descriptors = (grown, .ok ()) := by
  induction descriptors generalizing registry with
  | nil => exact ⟨registry, rfl⟩
  | cons descriptor rest ih =>
      obtain ⟨apart, distinctRest⟩ := List.nodup_cons.1 distinct
      have unknown := fresh descriptor List.mem_cons_self
      have freshRest : ∀ later ∈ rest, (registry.add descriptor).find? later.name = none := by
        intro later member
        have other : descriptor.name ≠ later.name :=
          fun same => apart (List.mem_map.2 ⟨later, member, same.symm⟩)
        rw [find?_add, if_neg other]
        exact fresh later (List.mem_cons_of_mem descriptor member)
      obtain ⟨grown, inserted⟩ := ih distinctRest freshRest
      exact ⟨grown, by simp only [insertAll, insert, unknown, inserted]⟩

theorem ofDescriptors_of_distinct (service : String) (policy : DuplicatePolicy)
    (distinct : (descriptors.map (·.name)).Nodup) :
    ∃ registry, ofDescriptors service policy descriptors = .ok registry := by
  have fresh : ∀ descriptor ∈ descriptors,
      (empty service policy).find? descriptor.name = none := fun _ _ => rfl
  obtain ⟨registry, inserted⟩ := insertAll_of_distinct distinct fresh
  exact ⟨registry, ofDescriptors_eq_ok_iff.2 inserted⟩

theorem ofDescriptors_settings {service : String} {policy : DuplicatePolicy}
    (registered : ofDescriptors service policy descriptors = .ok registry) :
    registry.service = service ∧ registry.policy = policy :=
  insertAll_settings (ofDescriptors_eq_ok_iff.1 registered)

theorem find?_ofDescriptors {service : String} {policy : DuplicatePolicy}
    (registered : ofDescriptors service policy descriptors = .ok registry) (name : String) :
    registry.find? name = (descriptors.find? (·.name == name)).map Descriptor.resolve :=
  find?_insertAll (ofDescriptors_eq_ok_iff.1 registered) name

def withPolicy (registry : Registry) (policy : DuplicatePolicy) : Registry :=
  { registry with policy }

theorem insert_withPolicy (inserted : registry.insert descriptor = (grown, .ok ())) :
    (registry.withPolicy .firstWins).insert descriptor =
      (grown.withPolicy .firstWins, .ok ()) := by
  rcases insert_cases inserted with ⟨first, known, _, rfl⟩ | ⟨unknown, rfl⟩
  · have stands : (grown.withPolicy .firstWins).find? descriptor.name = some first := known
    have dropped := checkDuplicate_of_firstWins
      (rfl : (grown.withPolicy .firstWins).policy = .firstWins) first descriptor.resolve
    simp only [insert, stands, dropped]
  · have missing : (registry.withPolicy .firstWins).find? descriptor.name = none := unknown
    simp only [insert, missing]
    rfl

/-- What can be registered at all is registered in the same way when the first one wins. -/
theorem insertAll_withPolicy (inserted : registry.insertAll descriptors = (grown, .ok ())) :
    (registry.withPolicy .firstWins).insertAll descriptors =
      (grown.withPolicy .firstWins, .ok ()) := by
  induction descriptors generalizing registry with
  | nil =>
      cases inserted
      rfl
  | cons descriptor rest ih =>
      obtain ⟨next, taken, later⟩ := insertAll_cons inserted
      simp only [insertAll, insert_withPolicy taken]
      exact ih later

theorem ofDescriptors_withPolicy {service : String} {policy : DuplicatePolicy}
    (registered : ofDescriptors service policy descriptors = .ok registry) :
    ofDescriptors service .firstWins descriptors = .ok (registry.withPolicy .firstWins) :=
  ofDescriptors_eq_ok_iff.2 (insertAll_withPolicy (ofDescriptors_eq_ok_iff.1 registered))

end Registry

end ServiceStubs
