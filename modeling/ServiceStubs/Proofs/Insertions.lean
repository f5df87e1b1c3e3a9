import ServiceStubs.Proofs.Registry
/-!
What a registry has become after any insertions. Each of them either finds its
name taken, and then changes nothing, whether it fails or not, or it adds the
descriptor. So under every name stands the first descriptor that was offered
under it, and whether an insertion fails is decided by these first ones.
-/

namespace ServiceStubs

namespace Descriptor
variable {a b : Descriptor}

/-- Two descriptors of one name differ in their fields, once both are resolved. -/
def Clashes (a b : Descriptor) : Prop :=
  a.name = b.name ∧ a.resolve.fields ≠ b.resolve.fields

theorem not_agrees_resolve_iff (same : a.name = b.name) :
    ¬ a.resolve.agrees b.resolve ↔ a.Clashes b := by
  have names : a.resolve.name = b.resolve.name := same
  rw [agrees_iff, layout, layout, Prod.mk.injEq]
  constructor
  · intro differ
    exact ⟨same, fun fields => differ ⟨names, fields⟩⟩
  · intro clash agree
    exact clash.2 agree.2

end Descriptor

namespace Registry
variable {registry grown : Registry} {descriptor : Descriptor} {descriptors : List Descriptor}
  {problem : AssemblyError}

theorem mem_names_iff (registry : Registry) (name : String) :
    name ∈ registry.names ↔ ∃ stored, registry.find? name = some stored :=
  Descriptor.mem_names_iff_find?.trans Option.isSome_iff_exists

theorem insert_fails_iff : (registry.insert descriptor).2 = .error problem ↔
    registry.policy = .strict ∧ problem = .nameConflict registry.service descriptor.name ∧
      ∃ known, registry.find? descriptor.name = some known ∧
        ¬ known.agrees descriptor.resolve := by
  unfold insert
  cases known : registry.find? descriptor.name with
  | none => simp
  | some first =>
      rcases registry.checkDuplicate_cases first descriptor.resolve with
        ⟨dropped, agree | lenient⟩ | ⟨failed, differ, strict⟩
      · simp [dropped, agree]
      · simp [dropped, lenient]
      · simp only [failed, strict, Except.error.injEq, true_and]
        constructor
        · rintro rfl
          exact ⟨rfl, first, rfl, differ⟩
        · rintro ⟨rfl, _⟩
          rfl

def offer (registry : Registry) (descriptor : Descriptor) : Registry :=
  (registry.insert descriptor).1

/-- The registry after some insertions, of which any may have failed. -/
def offerAll (registry : Registry) (descriptors : List Descriptor) : Registry :=
  descriptors.foldl offer registry

theorem offer_of_known {first : Descriptor}
    (known : registry.find? descriptor.name = some first) :
    registry.offer descriptor = registry := by
  simp only [offer, insert, known]

theorem offer_of_fresh (fresh : registry.find? descriptor.name = none) :
    registry.offer descriptor = registry.add descriptor := by
  simp only [offer, insert, fresh]

theorem offer_of_failure (failed : (registry.insert descriptor).2 = .error problem) :
    registry.offer descriptor = registry := by
  obtain ⟨_, _, first, known, _⟩ := insert_fails_iff.1 failed
  exact offer_of_known known

theorem offer_settings (registry : Registry) (descriptor : Descriptor) :
    (registry.offer descriptor).service = registry.service ∧
    (registry.offer descriptor).policy = registry.policy := by
  cases known : registry.find? descriptor.name with
  | some first =>
      rw [offer_of_known known]
      exact ⟨rfl, rfl⟩
  | none =>
      rw [offer_of_fresh known]
      exact ⟨rfl, rfl⟩

theorem find?_offer (registry : Registry) (descriptor : Descriptor) (name : String) :
    (registry.offer descriptor).find? name = (registry.find? name).or
      (if descriptor.name = name then some descriptor.resolve else none) := by
  cases known : registry.find? descriptor.name with
  | some first =>
      rw [offer_of_known known]
      by_cases same : descriptor.name = name
      · simp [← same, known]
      · simp [same]
  | none =>
      rw [offer_of_fresh known, find?_add]
      by_cases same : descriptor.name = name
      · simp [← same, known]
      · simp [same]

theorem find?_offerAll (registry : Registry) (history : List Descriptor) (name : String) :
    (registry.offerAll history).find? name = (registry.find? name).or
      ((history.find? (·.name == name)).map Descriptor.resolve) := by
  induction history generalizing registry with
  | nil => simp [offerAll]
  | cons descriptor rest ih =>
      have later := ih (registry.offer descriptor)
      rw [find?_offer] at later
      rw [offerAll, List.foldl_cons, ← offerAll, later]
      by_cases same : descriptor.name = name
      · simp [same]
      · simp [same]

theorem offerAll_settings (registry : Registry) (history : List Descriptor) :
    (registry.offerAll history).service = registry.service ∧
    (registry.offerAll history).policy = registry.policy := by
  induction history generalizing registry with
  | nil => exact ⟨rfl, rfl⟩
  | cons descriptor rest ih =>
      obtain ⟨service, policy⟩ := ih (registry.offer descriptor)
      obtain ⟨service', policy'⟩ := registry.offer_settings descriptor
      exact ⟨service.trans service', policy.trans policy'⟩

/-- When the insertions are done up to the first that fails, that one comes after some that do not
fail. -/
theorem insertAll_fails_iff : (registry.insertAll descriptors).2 = .error problem ↔
    ∃ before duplicate after grown, descriptors = before ++ duplicate :: after ∧
      registry.insertAll before = (grown, .ok ()) ∧
      (grown.insert duplicate).2 = .error problem := by
  constructor
  · intro failed
    induction descriptors generalizing registry with
    | nil => cases failed
    | cons descriptor rest ih =>
        unfold insertAll at failed
        split at failed
        · rename_i next taken
          obtain ⟨before, duplicate, after, grown, rfl, passed, refused⟩ := ih failed
          refine ⟨descriptor :: before, duplicate, after, grown, rfl, ?_, refused⟩
          simp only [insertAll, taken, passed]
        · rename_i reached conflict refused
          refine ⟨[], descriptor, rest, registry, rfl, rfl, ?_⟩
          rw [refused]
          exact failed
  · rintro ⟨before, duplicate, after, grown, rfl, passed, refused⟩
    induction before generalizing registry with
    | nil =>
        cases passed
        rw [List.nil_append, insertAll]
        split
        · rename_i reached taken
          rw [taken] at refused
          cases refused
        · rename_i reached conflict stopped
          rw [stopped] at refused
          exact refused
    | cons descriptor rest ih =>
        obtain ⟨next, taken, later⟩ := insertAll_cons passed
        simp only [List.cons_append, insertAll, taken]
        exact ih later

theorem insertAll_eq_offerAll (inserted : registry.insertAll descriptors = (grown, .ok ())) :
    grown = registry.offerAll descriptors := by
  induction descriptors generalizing registry with
  | nil =>
      cases inserted
      rfl
  | cons descriptor rest ih =>
      obtain ⟨next, taken, later⟩ := insertAll_cons inserted
      have stepped : registry.offer descriptor = next := by simp only [offer, taken]
      rw [offerAll, List.foldl_cons, stepped]
      exact ih later

/-- Once all insertions are done and none has failed, every descriptor agrees with the one that
stands under its name. -/
theorem agrees_of_insertAll (strict : registry.policy = .strict)
    (inserted : registry.insertAll descriptors = (grown, .ok ())) :
    ∀ given ∈ descriptors, ∃ stored, grown.find? given.name = some stored ∧
      stored.agrees given.resolve := by
  induction descriptors generalizing registry with
  | nil => simp
  | cons descriptor rest ih =>
      obtain ⟨next, taken, later⟩ := insertAll_cons inserted
      have kept := find?_insertAll later descriptor.name
      intro given member
      rcases insert_cases taken with ⟨first, known, dropped, rfl⟩ | ⟨_, rfl⟩
      · rcases List.mem_cons.1 member with rfl | deeper
        · rw [known, Option.some_or] at kept
          rcases next.checkDuplicate_cases first given.resolve with
            ⟨_, agree | lenient⟩ | ⟨failed, _⟩
          · exact ⟨first, kept, agree⟩
          · rw [strict] at lenient
            cases lenient
          · rw [dropped] at failed
            cases failed
        · exact ih strict later given deeper
      · rcases List.mem_cons.1 member with rfl | deeper
        · rw [find?_add, if_pos rfl, Option.some_or] at kept
          exact ⟨given.resolve, kept, given.resolve.agrees_self⟩
        · have policyKept : (registry.add descriptor).policy = .strict := strict
          exact ih policyKept later given deeper

section Empty
variable {service : String} {policy : DuplicatePolicy}

theorem not_clashes_of_ofDescriptors
    (registered : ofDescriptors service .strict descriptors = .ok registry) :
    ∀ a ∈ descriptors, ∀ b ∈ descriptors, ¬ a.Clashes b := by
  intro a member b other clash
  have inserted := ofDescriptors_eq_ok_iff.1 registered
  obtain ⟨stored, known, agree⟩ := agrees_of_insertAll rfl inserted a member
  obtain ⟨same, known', agree'⟩ := agrees_of_insertAll rfl inserted b other
  rw [← clash.1, known, Option.some.injEq] at known'
  subst known'
  have layouts : a.resolve.layout = b.resolve.layout :=
    (Descriptor.agrees_iff.1 agree).symm.trans (Descriptor.agrees_iff.1 agree')
  exact clash.2 (congrArg Prod.snd layouts)

theorem find?_offerAll_empty (service : String) (policy : DuplicatePolicy)
    (history : List Descriptor) (name : String) :
    ((empty service policy).offerAll history).find? name =
      (history.find? (·.name == name)).map Descriptor.resolve :=
  find?_offerAll (empty service policy) history name

theorem mem_names_offerAll (service : String) (policy : DuplicatePolicy)
    (history : List Descriptor) (name : String) :
    name ∈ ((empty service policy).offerAll history).names ↔ name ∈ history.map (·.name) := by
  rw [mem_names_iff, ← Option.isSome_iff_exists, find?_offerAll_empty, Option.isSome_map,
    Descriptor.mem_names_iff_find?]

/-- An insertion after others fails when it clashes with the first descriptor of its name. -/
theorem insert_offerAll_fails_iff {history : List Descriptor} :
    (((empty service policy).offerAll history).insert descriptor).2 = .error problem ↔
      policy = .strict ∧ problem = .nameConflict service descriptor.name ∧
        ∃ first, history.find? (·.name == descriptor.name) = some first ∧
          first.Clashes descriptor := by
  obtain ⟨serviceKept, policyKept⟩ := (empty service policy).offerAll_settings history
  rw [insert_fails_iff, serviceKept, policyKept, find?_offerAll_empty]
  apply and_congr_right
  intro _
  apply and_congr_right
  intro _
  constructor
  · rintro ⟨_, known, differ⟩
    obtain ⟨first, found, rfl⟩ := Option.map_eq_some_iff.1 known
    have named : first.name = descriptor.name := by simpa using List.find?_some found
    exact ⟨first, found, (Descriptor.not_agrees_resolve_iff named).1 differ⟩
  · rintro ⟨first, found, clash⟩
    exact ⟨first.resolve, by rw [found, Option.map_some],
      (Descriptor.not_agrees_resolve_iff clash.1).2 clash⟩

theorem clash_of_ofDescriptors_error
    (failed : ofDescriptors service policy descriptors = .error problem) :
    policy = .strict ∧ ∃ before duplicate after, descriptors = before ++ duplicate :: after ∧
      (∃ registry, ofDescriptors service policy before = .ok registry) ∧
      (∃ earlier ∈ before, earlier.Clashes duplicate) ∧
      problem = .nameConflict service duplicate.name := by
  obtain ⟨before, duplicate, after, grown, parts, passed, refused⟩ :=
    insertAll_fails_iff.1 (ofDescriptors_eq_error_iff.1 failed)
  have registered := ofDescriptors_eq_ok_iff.2 passed
  rw [insertAll_eq_offerAll passed] at refused
  obtain ⟨strict, reported, first, found, clash⟩ := insert_offerAll_fails_iff.1 refused
  exact ⟨strict, before, duplicate, after, parts, ⟨grown, registered⟩,
    ⟨first, List.mem_of_find?_eq_some found, clash⟩, reported⟩

theorem ofDescriptors_of_not_clashes
    (apart : ∀ a ∈ descriptors, ∀ b ∈ descriptors, ¬ a.Clashes b) :
    ∃ registry, ofDescriptors service policy descriptors = .ok registry := by
  cases outcome : ofDescriptors service policy descriptors with
  | ok registry => exact ⟨registry, rfl⟩
  | error problem =>
      obtain ⟨_, before, duplicate, after, rfl, _, ⟨earlier, member, clash⟩, _⟩ :=
        clash_of_ofDescriptors_error outcome
      have listed : duplicate ∈ before ++ duplicate :: after := by simp
      exact absurd clash (apart earlier (List.mem_append_left _ member) duplicate listed)

/-- The failure is that of the first descriptor that clashes with an earlier one. -/
theorem ofDescriptors_fails_iff : ofDescriptors service policy descriptors = .error problem ↔
    policy = .strict ∧ ∃ before duplicate after, descriptors = before ++ duplicate :: after ∧
      (∀ a ∈ before, ∀ b ∈ before, ¬ a.Clashes b) ∧
      (∃ earlier ∈ before, earlier.Clashes duplicate) ∧
      problem = .nameConflict service duplicate.name := by
  constructor
  · intro failed
    obtain ⟨rfl, before, duplicate, after, parts, ⟨registry, passed⟩, clash, reported⟩ :=
      clash_of_ofDescriptors_error failed
    exact ⟨rfl, before, duplicate, after, parts, not_clashes_of_ofDescriptors passed, clash,
      reported⟩
  · rintro ⟨rfl, before, duplicate, after, rfl, apart, ⟨earlier, member, clash⟩, reported⟩
    obtain ⟨grown, registered⟩ : ∃ grown, ofDescriptors service .strict before = .ok grown :=
      ofDescriptors_of_not_clashes apart
    have passed := ofDescriptors_eq_ok_iff.1 registered
    apply ofDescriptors_eq_error_iff.2
    apply insertAll_fails_iff.2
    refine ⟨before, duplicate, after, grown, rfl, passed, ?_⟩
    rw [insertAll_eq_offerAll passed, insert_offerAll_fails_iff]
    refine ⟨rfl, reported, ?_⟩
    cases found : before.find? (·.name == duplicate.name) with
    | none => exact absurd (List.find?_eq_none.1 found earlier member) (by simp [clash.1])
    | some first =>
        -- The first one of that name has the fields of the earlier one, so it clashes as well.
        have named : first.name = duplicate.name := by simpa using List.find?_some found
        refine ⟨first, rfl, named, fun same => ?_⟩
        apply apart first (List.mem_of_find?_eq_some found) earlier member
        exact ⟨named.trans clash.1.symm, fun fields => clash.2 (fields.symm.trans same)⟩

theorem ofDescriptors_clashes_iff :
    (∃ problem, ofDescriptors service policy descriptors = .error problem) ↔
      policy = .strict ∧ ∃ a ∈ descriptors, ∃ b ∈ descriptors, a.Clashes b := by
  constructor
  · rintro ⟨problem, failed⟩
    obtain ⟨strict, before, duplicate, after, rfl, _, ⟨earlier, member, clash⟩, _⟩ :=
      clash_of_ofDescriptors_error failed
    exact ⟨strict, earlier, List.mem_append_left _ member, duplicate, by simp, clash⟩
  · rintro ⟨rfl, a, member, b, other, clash⟩
    cases outcome : ofDescriptors service .strict descriptors with
    | error problem => exact ⟨problem, rfl⟩
    | ok registry =>
        exact absurd clash (not_clashes_of_ofDescriptors outcome a member b other)

/-- After any insertions into an empty registry, some of which may have failed, the names are those
of the descriptors offered, and under each name stands the first one that was offered, resolved.
An insertion fails exactly when the policy is strict and the descriptor clashes with that first
one; one that fails, and one whose name is taken, leaves the registry as it is. So registering a
list fails under the strict policy only, exactly when two of its descriptors clash, at the first
that clashes with an earlier one; otherwise it comes to what offering the list comes to. -/
theorem offerAll_exact (service : String) (policy : DuplicatePolicy) (history : List Descriptor) :
    let registry := (empty service policy).offerAll history
    (∀ name, name ∈ registry.names ↔ name ∈ history.map (·.name)) ∧
    (∀ name stored, registry.find? name = some stored ↔
      ∃ first, history.find? (·.name == name) = some first ∧ stored = first.resolve) ∧
    (∀ name stored, registry.find? name = some stored → stored.name = name ∧ stored.IsResolved) ∧
    (∀ descriptor problem, (registry.insert descriptor).2 = .error problem ↔
      policy = .strict ∧ problem = .nameConflict service descriptor.name ∧
        ∃ first, history.find? (·.name == descriptor.name) = some first ∧
          first.Clashes descriptor) ∧
    (∀ descriptor, descriptor.name ∈ history.map (·.name) →
      (registry.insert descriptor).1 = registry) ∧
    (∀ descriptor problem, (registry.insert descriptor).2 = .error problem →
      (registry.insert descriptor).1 = registry) ∧
    (∀ grown, ofDescriptors service policy history = .ok grown → grown = registry) ∧
    ((∃ problem, ofDescriptors service policy history = .error problem) ↔
      policy = .strict ∧ ∃ a ∈ history, ∃ b ∈ history, a.Clashes b) ∧
    ∀ problem, ofDescriptors service policy history = .error problem ↔
      policy = .strict ∧ ∃ before duplicate after, history = before ++ duplicate :: after ∧
        (∀ a ∈ before, ∀ b ∈ before, ¬ a.Clashes b) ∧
        (∃ earlier ∈ before, earlier.Clashes duplicate) ∧
        problem = .nameConflict service duplicate.name := by
  intro registry
  have names := mem_names_offerAll service policy history
  refine ⟨names, ?_, ?_, ?_, ?_, ?_, ?_, ofDescriptors_clashes_iff, ?_⟩
  · intro name stored
    rw [find?_offerAll_empty, Option.map_eq_some_iff]
    simp only [eq_comm]
  · intro name stored known
    exact ⟨name_of_find? known, isResolved_of_find? known⟩
  · intro descriptor problem
    exact insert_offerAll_fails_iff
  · intro descriptor offered
    obtain ⟨stored, known⟩ := (registry.mem_names_iff _).1 ((names descriptor.name).2 offered)
    exact offer_of_known known
  · intro descriptor problem failed
    exact offer_of_failure failed
  · intro grown registered
    exact insertAll_eq_offerAll (ofDescriptors_eq_ok_iff.1 registered)
  · intro problem
    exact ofDescriptors_fails_iff

end Empty

def linked : Descriptor where
  name := "Node"
  fields := [{ name := "Next", type := .ref "Node" }]
  docstring := "A list."

def linkedCopy : Descriptor where
  name := "Node"
  fields := [{ name := "Next", type := .selfRef }]

def unlinked : Descriptor where
  name := "Node"
  fields := [{ name := "Value", type := .builtin "str" }]

/-- The copy is no conflict, the shape that differs is one, and after both the first one stands. -/
theorem linked_stays :
    let history := [linked, linkedCopy, unlinked]
    let registry := (empty "s3" .strict).offerAll history
    registry.find? "Node" = some { linkedCopy with docstring := "A list." } ∧
    registry.insert unlinked = (registry, .error (.nameConflict "s3" "Node")) ∧
    ofDescriptors "s3" .strict history = .error (.nameConflict "s3" "Node") := by
  intro history registry
  obtain ⟨_, stands, _, fails, _, stays, _, _, reported⟩ := offerAll_exact "s3" .strict history
  have clash : linked.Clashes unlinked := ⟨rfl, by decide⟩
  have apart : ∀ a ∈ [linked, linkedCopy], ∀ b ∈ [linked, linkedCopy], ¬ a.Clashes b := by
    intro a member b other clash
    have same : ∀ c ∈ [linked, linkedCopy], c.resolve.fields = linkedCopy.fields := by decide
    exact clash.2 ((same a member).trans (same b other).symm)
  have refused := (fails unlinked _).2 ⟨rfl, rfl, linked, rfl, clash⟩
  refine ⟨(stands _ _).2 ⟨linked, rfl, by decide⟩, Prod.ext (stays unlinked _ refused) refused,
    (reported _).2 ⟨rfl, [linked, linkedCopy], unlinked, [], rfl, apart,
      ⟨linked, List.mem_cons_self, clash⟩, rfl⟩⟩

end Registry

end ServiceStubs
