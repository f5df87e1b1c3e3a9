import ServiceStubs.Proofs.Flattened
/-!
Who is to blame for a name that is not known. The search and the walk report a
descriptor that they did reach and one of whose fields refers to the name;
flattening components reports, before it searches at all, the least name that a
component refers to and that is not registered, with the first component that
does so.
-/

namespace ServiceStubs

def Refers (lookUp : String → Option Descriptor) (start : String → Prop) (referrer name : String) :
    Prop :=
  ∃ descriptor, Reached lookUp start referrer ∧ lookUp referrer = some descriptor ∧
    ∃ field ∈ descriptor.fields, name ∈ field.type.references

/-- The descriptor under `referrer`, a root or else registered, is reached from the roots, and one
of its fields refers to the name. Of several roots of one name the first counts. -/
def Registry.RefersFrom (registry : Registry) (roots : List Descriptor) : String → String → Prop :=
  Refers (registry.standing (roots.map Descriptor.resolve)) (· ∈ roots.map (·.name))

theorem Unresolved.attributed {known service name referrer : String}
    {lookUp : String → Option Descriptor} {start : String → Prop}
    (unresolved : Unresolved known lookUp start (.unresolvedReference service name referrer)) :
    service = known ∧ lookUp name = none ∧ Refers lookUp start referrer name := by
  obtain ⟨parent, descriptor, child, reached, stands, below, absent, reported⟩ := unresolved
  cases reported
  exact ⟨rfl, absent, descriptor, reached, stands, (Descriptor.mem_children.1 below).2⟩

namespace Registry
variable {registry : Registry} {roots : List Descriptor} {name : String}

theorem contains_eq_false (unknown : registry.find? name = none) :
    registry.contains name = false := by
  simp [contains, unknown]

/-- What stands for nothing in a search is neither a root nor registered. -/
theorem unknown_of_standing (absent : registry.standing roots name = none) :
    registry.contains name = false ∧ name ∉ roots.map (·.name) := by
  obtain ⟨notGiven, unknown⟩ := Option.or_eq_none_iff.1 absent
  refine ⟨contains_eq_false unknown, fun member => ?_⟩
  obtain ⟨root, given, same⟩ := List.mem_map.1 member
  exact List.find?_eq_none.1 notGiven root given (by simpa using same)

theorem checkRegistered_error {descriptor : Descriptor} {conflict : AssemblyError}
    (failed : registry.checkRegistered descriptor = .error conflict) :
    conflict = .nameConflict registry.service descriptor.name := by
  unfold checkRegistered at failed
  split at failed
  · rename_i known _
    rcases registry.checkDuplicate_cases known descriptor with ⟨dropped, _⟩ | ⟨clash, _, _⟩
    · rw [dropped] at failed
      cases failed
    · rw [clash] at failed
      cases failed
      rfl
  · cases failed

theorem reachable_attributed {root : Descriptor} {service referrer : String}
    (failed : registry.reachable root = .error (.unresolvedReference service name referrer)) :
    service = registry.service ∧ registry.contains name = false ∧ name ≠ root.name ∧
      registry.RefersFrom [root] referrer name := by
  cases checked : registry.checkRegistered root.resolve with
  | error conflict =>
      rw [reachable, checked, checkRegistered_error checked] at failed
      cases failed
  | ok accepted =>
      have walked := reachable_spec checked
      rw [failed] at walked
      obtain ⟨same, absent, refers⟩ := Unresolved.attributed walked
      obtain ⟨unknown, notRoot⟩ := unknown_of_standing absent
      exact ⟨same, unknown, by simpa [Descriptor.resolve] using notRoot, refers⟩

end Registry

namespace Flattened
variable {registry : Registry} {roots : List Descriptor} {components : List ClassOutline}

section Roots

theorem ofRoots_attributed {service name referrer : String}
    (failed : ofRoots registry roots = .error (.unresolvedReference service name referrer)) :
    service = registry.service ∧ registry.contains name = false ∧ name ∉ roots.map (·.name) ∧
      registry.RefersFrom roots referrer name := by
  rcases ofRoots_cases registry roots with outcome | ⟨_, conflict⟩
  · rw [failed] at outcome
    obtain ⟨same, absent, refers⟩ := Unresolved.attributed outcome
    obtain ⟨unknown, notRoot⟩ := Registry.unknown_of_standing absent
    rw [Descriptor.map_resolve_names] at notRoot
    exact ⟨same, unknown, notRoot, refers⟩
  · rw [failed] at conflict
    cases conflict

end Roots

section Components

def FirstExposes (components : List ClassOutline) (name : String) (component : ClassOutline) :
    Prop :=
  .ref name ∈ component.types ∧ ∃ before after, components = before ++ component :: after ∧
    ∀ earlier ∈ before, .ref name ∉ earlier.types

structure LeastMissing (registry : Registry) (components : List ClassOutline) (name : String)
    (component : ClassOutline) : Prop where
  first : FirstExposes components name component
  unknown : registry.contains name = false
  least : ∀ other, Exposes components other → registry.contains other = false →
    compare name other ≠ .gt

def referrals (component : ClassOutline) : List (String × String) :=
  component.types.filterMap fun
    | .ref name => some (name, component.name)
    | _ => none

def byName (a b : String × String) : Ordering :=
  compare a.1 b.1

instance : Std.TransCmp byName :=
  inferInstanceAs (Std.TransCmp (compareOn Prod.fst))

theorem exposed_eq (components : List ClassOutline) :
    exposed components = Sorted.ofList byName (components.flatMap referrals).reverse := rfl

theorem find?_referrals (component : ClassOutline) (name : String) :
    (referrals component).find? (·.1 == name) =
      if .ref name ∈ component.types then some (name, component.name) else none := by
  unfold referrals
  induction component.types with
  | nil => rfl
  | cons type rest ih =>
      cases type with
      | ref other =>
          by_cases same : other = name
          · simp [same]
          · simp [same, Ne.symm same, ih]
      | builtin other => simpa using ih
      | external other => simpa using ih
      | selfRef => simpa using ih
      | container outer args => simpa using ih
      | literal values => simpa using ih

/-- With each exposed name stands the first component that refers to it. -/
theorem firstExposes_of_mem_exposed {name referrer : String}
    (member : (name, referrer) ∈ exposed components) :
    ∃ component, FirstExposes components name component ∧ component.name = referrer := by
  rw [exposed_eq, Sorted.mem_ofList_iff_last] at member
  obtain ⟨before, after, reversed, last⟩ := member
  -- Last in the reversed list is first in the list itself.
  have forward : components.flatMap referrals =
      after.reverse ++ (name, referrer) :: before.reverse := by
    rw [← List.reverse_reverse (components.flatMap referrals), reversed]
    simp
  have found : (components.flatMap referrals).find? (·.1 == name) = some (name, referrer) := by
    refine List.find?_eq_some_iff_append.2 ⟨by simp, _, _, forward, fun earlier listed => ?_⟩
    have apart := last earlier (List.mem_reverse.1 listed)
    simpa [byName] using apart
  rw [List.find?_flatMap] at found
  obtain ⟨front, component, rest, parts, own, none⟩ := List.findSome?_eq_some_iff.1 found
  rw [find?_referrals] at own
  split at own
  · rename_i refers
    cases own
    refine ⟨component, ⟨refers, front, rest, parts, fun earlier listed shown => ?_⟩, rfl⟩
    have nothing := none earlier listed
    rw [find?_referrals, if_pos shown] at nothing
    cases nothing
  · cases own

/-- Where looking up the exposed names fails, the least of the unknown ones is reported. -/
theorem least_of_lookUpAll {error : AssemblyError}
    (failed : lookUpAll registry (exposed components) = .error error) :
    ∃ name component, LeastMissing registry components name component ∧
      error = .unresolvedReference registry.service name component.name := by
  have looked := lookUpAll_spec registry (exposed components)
  rw [failed] at looked
  obtain ⟨before, ⟨name, referrer⟩, after, parts, passed, unknown, rfl⟩ := looked
  have member : (name, referrer) ∈ exposed components := by
    rw [parts]
    simp
  obtain ⟨component, first, rfl⟩ := firstExposes_of_mem_exposed member
  refine ⟨name, component, ⟨first, Registry.contains_eq_false unknown, ?_⟩, rfl⟩
  intro other shown missing above
  -- What is below stands before, and all that stands before is registered.
  obtain ⟨⟨_, _⟩, listed, rfl⟩ := List.mem_map.1 (mem_exposed.2 shown)
  have increasing : Sorted.Increasing byName (exposed components) := Sorted.increasing_ofList _
  rw [parts] at increasing listed
  have earlier := (increasing.mem_before_iff listed).2 (Std.OrientedCmp.lt_of_gt above)
  have registered := passed _ earlier
  rw [missing] at registered
  cases registered

theorem component_of_first {name : String} {component : ClassOutline}
    (first : FirstExposes components name component) : component ∈ components := by
  obtain ⟨_, before, after, rfl, _⟩ := first
  simp

theorem ofComponents_of_unregistered
    (missing : ∃ name, Exposes components name ∧ registry.contains name = false) :
    ∃ name component, LeastMissing registry components name component ∧
      ofComponents registry components =
        .error (.unresolvedReference registry.service name component.name) := by
  cases looked : lookUpAll registry (exposed components) with
  | error unresolved =>
      obtain ⟨name, component, least, rfl⟩ := least_of_lookUpAll looked
      exact ⟨name, component, least, by simp only [ofComponents, looked]⟩
  | ok roots =>
      obtain ⟨name, shown, unknown⟩ := missing
      have all := lookUpAll_spec registry (exposed components)
      rw [looked] at all
      obtain ⟨names, registered⟩ := all
      have listed := mem_exposed.2 shown
      rw [← names] at listed
      obtain ⟨root, member, rfl⟩ := List.mem_map.1 listed
      simp [Registry.contains, registered root member] at unknown

theorem ofComponents_attributed {service name referrer : String}
    (failed : ofComponents registry components =
      .error (.unresolvedReference service name referrer)) :
    service = registry.service ∧ registry.contains name = false ∧
      ((∃ component ∈ components, component.name = referrer ∧ .ref name ∈ component.types) ∨
        Refers registry.find? (Exposes components) referrer name) := by
  by_cases missing : ∃ name, Exposes components name ∧ registry.contains name = false
  · obtain ⟨name, component, least, reported⟩ := ofComponents_of_unregistered missing
    rw [failed] at reported
    cases reported
    have first := least.first
    exact ⟨rfl, least.unknown, Or.inl ⟨component, component_of_first first, rfl, first.1⟩⟩
  · rcases ofComponents_cases registry components with outcome | ⟨name, _, shown, unknown, _⟩
    · rw [failed] at outcome
      obtain ⟨same, absent, refers⟩ := Unresolved.attributed outcome
      exact ⟨same, Registry.contains_eq_false absent, Or.inr refers⟩
    · exact absurd ⟨name, shown, Registry.contains_eq_false unknown⟩ missing

end Components

/-- Whatever fails for want of a descriptor names the service, a name that is neither registered
nor that of a root, and as its referrer a component that has the name among its leaf types, or a
root or reached descriptor one of whose fields refers to it. Where a name that components refer
to is not registered, flattening them reports the least such name with the first component that
refers to it. -/
theorem unresolved_attributed (registry : Registry) :
    (∀ components service name referrer,
      ofComponents registry components = .error (.unresolvedReference service name referrer) →
      service = registry.service ∧ registry.contains name = false ∧
        ((∃ component ∈ components, component.name = referrer ∧ .ref name ∈ component.types) ∨
          Refers registry.find? (Exposes components) referrer name)) ∧
    (∀ roots service name referrer,
      ofRoots registry roots = .error (.unresolvedReference service name referrer) →
      service = registry.service ∧ registry.contains name = false ∧ name ∉ roots.map (·.name) ∧
        registry.RefersFrom roots referrer name) ∧
    (∀ root service name referrer,
      registry.reachable root = .error (.unresolvedReference service name referrer) →
      service = registry.service ∧ registry.contains name = false ∧ name ≠ root.name ∧
        registry.RefersFrom [root] referrer name) ∧
    ∀ components, (∃ name, Exposes components name ∧ registry.contains name = false) →
      ∃ name component, LeastMissing registry components name component ∧
        ofComponents registry components =
          .error (.unresolvedReference registry.service name component.name) :=
  ⟨fun _ _ _ _ failed => ofComponents_attributed failed,
    fun _ _ _ _ failed => ofRoots_attributed failed,
    fun _ _ _ _ failed => Registry.reachable_attributed failed,
    fun _ missing => ofComponents_of_unregistered missing⟩

def twoMissing : List ClassOutline :=
  [{ name := "S3Client", methods := [{ name := "get", returnType := .ref "FooTypeDef" }] },
   { name := "FooWaiter", methods := [{ name := "wait", returnType := .ref "BarTypeDef" }] },
   { name := "BarPaginator", methods := [{ name := "paginate", returnType := .ref "BarTypeDef" }] }]

theorem twoMissing_reported :
    let registry := Registry.empty "s3" .strict
    let error := AssemblyError.unresolvedReference "s3" "BarTypeDef" "FooWaiter"
    ofComponents registry twoMissing = .error error ∧ registry.contains "BarTypeDef" = false ∧
      ∃ name component, LeastMissing registry twoMissing name component ∧
        ofComponents registry twoMissing =
          .error (.unresolvedReference registry.service name component.name) := by
  intro registry error
  have failed : ofComponents registry twoMissing = .error error := rfl
  have shown : Exposes twoMissing "BarTypeDef" := mem_exposed.1 (by decide)
  obtain ⟨blamed, _, _, least⟩ := unresolved_attributed registry
  have unknown := (blamed twoMissing _ _ _ failed).2.1
  obtain ⟨name, component, missing, reported⟩ := least twoMissing ⟨_, shown, unknown⟩
  exact ⟨failed, unknown, name, component, missing, reported⟩

end Flattened

/-!
What the roots of a search decide. Whether they conflict is settled before any
reference is followed, so the least name under which they do is reported even
where references lead nowhere. Where the search succeeds the first root of a
name is what stands under it, and it is the children of that root that are
followed; every other name has what is registered.
-/

theorem Registry.conflicting_sort {registry : Registry} {roots : List Descriptor} {name : String} :
    registry.Conflicting (Sorted.sort Descriptor.order roots) name ↔
      registry.Conflicting roots name := by
  constructor <;> intro conflicting <;> refine conflicting.transfer fun root member _ => ?_
  · exact ⟨root, Sorted.mem_sort.1 member, rfl⟩
  · exact ⟨root, Sorted.mem_sort.2 member, rfl⟩

/-- The names reached from given roots, each root taken as it is once resolved. -/
theorem Registry.reachedFrom_resolve_iff {registry : Registry} {roots : List Descriptor}
    {name : String} : registry.ReachedFrom (roots.map Descriptor.resolve) name ↔
      Reached (registry.standing (roots.map Descriptor.resolve)) (· ∈ roots.map (·.name)) name := by
  rw [ReachedFrom, Descriptor.map_resolve_names]

namespace Flattened
variable {registry : Registry} {roots : List Descriptor} {flattened : Flattened} {name : String}

section Conflict

/-- A search conflicts under the strict policy only, at the least name under which its roots
conflict; where it does not conflict, such a name does not exist or the first root wins. -/
theorem ofRoots_conflict_cases (registry : Registry) (roots : List Descriptor) :
    ((registry.policy = .strict → ∀ name, ¬ registry.Conflicting roots name) ∧
      ∀ service name, ofRoots registry roots ≠ .error (.nameConflict service name)) ∨
    registry.policy = .strict ∧ ∃ name, registry.LeastConflict roots name ∧
      ofRoots registry roots = .error (.nameConflict registry.service name) := by
  cases accepted : Work.acceptAll registry (Sorted.sort Descriptor.order roots) {} with
  | ok work =>
      have done := Work.taken_of_acceptAll accepted
      have outcome := ofRoots_of_acceptAll accepted done.toStarted
      refine Or.inl ⟨fun strict name conflicting => ?_, outcome.not_nameConflict⟩
      exact done.not_conflicting strict name (Registry.conflicting_sort.2 conflicting)
  | error conflict =>
      obtain ⟨strict, name, rfl, least⟩ := Work.conflict_of_acceptAll accepted
      refine Or.inr ⟨strict, name, ⟨Registry.conflicting_sort.1 least.conflicting, ?_⟩, ?_⟩
      · exact fun other clash => least.least other (Registry.conflicting_sort.2 clash)
      · simp only [ofRoots, accepted]

theorem ofRoots_conflicts_iff (strict : registry.policy = .strict) :
    (∃ service name, ofRoots registry roots = .error (.nameConflict service name)) ↔
      ∃ name, registry.Conflicting roots name := by
  rcases ofRoots_conflict_cases registry roots with ⟨agree, never⟩ | ⟨_, name, least, failed⟩
  · exact iff_of_false (fun ⟨service, name, failed⟩ => never service name failed)
      fun ⟨name, conflicting⟩ => agree strict name conflicting
  · exact iff_of_true ⟨_, name, failed⟩ ⟨name, least.conflicting⟩

theorem ofRoots_nameConflict_iff (strict : registry.policy = .strict) {service : String} :
    ofRoots registry roots = .error (.nameConflict service name) ↔
      service = registry.service ∧ registry.LeastConflict roots name := by
  rcases ofRoots_conflict_cases registry roots with ⟨agree, never⟩ | ⟨_, least, isLeast, failed⟩
  · exact iff_of_false (never service name) fun ⟨_, clash⟩ => agree strict name clash.conflicting
  · rw [failed]
    constructor
    · intro reported
      cases reported
      exact ⟨rfl, isLeast⟩
    · rintro ⟨rfl, alsoLeast⟩
      rw [isLeast.unique alsoLeast]

theorem ofRoots_not_nameConflict (lenient : registry.policy = .firstWins) (service name : String) :
    ofRoots registry roots ≠ .error (.nameConflict service name) := by
  rcases ofRoots_conflict_cases registry roots with ⟨_, never⟩ | ⟨strict, _⟩
  · exact never service name
  · rw [strict] at lenient
    cases lenient

end Conflict

section Kept

theorem standing_of_first {first : Descriptor}
    (given : roots.find? (·.name == name) = some first) :
    registry.standing (roots.map Descriptor.resolve) name = some first.resolve := by
  rw [Registry.standing, Descriptor.find?_resolve, given]
  rfl

theorem standing_of_other (other : name ∉ roots.map (·.name)) :
    registry.standing (roots.map Descriptor.resolve) name = registry.find? name :=
  Registry.standing_of_not_mem (by rwa [Descriptor.map_resolve_names])

theorem exists_standing_iff :
    (∃ descriptor, registry.standing (roots.map Descriptor.resolve) name = some descriptor) ↔
      name ∈ roots.map (·.name) ∨ registry.contains name := by
  by_cases given : name ∈ roots.map (·.name)
  · obtain ⟨first, found⟩ := Option.isSome_iff_exists.1 (Descriptor.mem_names_iff_find?.1 given)
    exact iff_of_true ⟨first.resolve, standing_of_first found⟩ (Or.inl given)
  · rw [standing_of_other given, Registry.contains_iff]
    exact (or_iff_right given).symm

/-- Where the first root wins, a search fails only for want of a descriptor. -/
theorem ofRoots_ok_iff (lenient : registry.policy = .firstWins) :
    (∃ flattened, ofRoots registry roots = .ok flattened) ↔
      ∀ name, registry.ReachedFrom (roots.map Descriptor.resolve) name →
        name ∈ roots.map (·.name) ∨ registry.contains name := by
  rcases ofRoots_cases registry roots with outcome | ⟨name, failed⟩
  · simp only [outcome.ok_iff, Registry.reachedFrom_resolve_iff, exists_standing_iff]
  · exact absurd failed (ofRoots_not_nameConflict lenient _ name)

theorem Closure.get?_eq {lookUp : String → Option Descriptor} {start : String → Prop}
    (closure : Closure lookUp start flattened) (listed : name ∈ flattened.names) :
    flattened.get? name = lookUp name :=
  Descriptor.find?_of_standing closure.standing listed

/-- The first root of a name stands under it, and its children are followed. -/
theorem first_kept (succeeded : ofRoots registry roots = .ok flattened) {first : Descriptor}
    (given : roots.find? (·.name == name) = some first) :
    flattened.get? name = some first.resolve ∧
      ∀ child ∈ first.resolve.children, child ∈ flattened.names := by
  have closure := ofRoots_closure succeeded
  have stands : registry.standing (roots.map Descriptor.resolve) name = some first.resolve :=
    standing_of_first given
  have root : name ∈ roots.map (·.name) := by
    rw [Descriptor.mem_names_iff_find?, given]
    rfl
  have reached : Reached (registry.standing (roots.map Descriptor.resolve))
      (· ∈ roots.map (·.name)) name := Reached.start root
  constructor
  · rw [closure.get?_eq ((closure.mem_names_iff name).2 reached), stands]
  · intro child below
    exact (closure.mem_names_iff child).2 (Reached.child reached stands below)

theorem registered_kept (succeeded : ofRoots registry roots = .ok flattened)
    (listed : name ∈ flattened.names) (other : name ∉ roots.map (·.name)) :
    ∃ known, registry.find? name = some known ∧ flattened.get? name = some known := by
  have closure := ofRoots_closure succeeded
  obtain ⟨descriptor, member, rfl⟩ := List.mem_map.1 listed
  have stands := closure.standing descriptor member
  exact ⟨descriptor, standing_of_other other ▸ stands, (closure.get?_eq listed).trans stands⟩

end Kept

/-- Under the strict policy a search conflicts exactly where two roots of one name, or a root and
the registered descriptor of its name, differ in their fields once resolved, and it reports the
least such name, whether or not references lead nowhere. Where the first one wins it never
conflicts, and it succeeds exactly when whatever is reached is a root or registered. In what a
search comes to, the first root of a name stands under that name, resolved, and its children are
followed; every other name has what is registered under it; and the names are those reached from
the roots so taken. -/
theorem ofRoots_settlesRoots (registry : Registry) (roots : List Descriptor) :
    (registry.policy = .strict →
      ((∃ service name, ofRoots registry roots = .error (.nameConflict service name)) ↔
        ∃ name, registry.Conflicting roots name) ∧
      ∀ service name, ofRoots registry roots = .error (.nameConflict service name) ↔
        service = registry.service ∧ registry.LeastConflict roots name) ∧
    (registry.policy = .firstWins →
      (∀ service name, ofRoots registry roots ≠ .error (.nameConflict service name)) ∧
      ((∃ flattened, ofRoots registry roots = .ok flattened) ↔
        ∀ name, registry.ReachedFrom (roots.map Descriptor.resolve) name →
          name ∈ roots.map (·.name) ∨ registry.contains name)) ∧
    ∀ flattened, ofRoots registry roots = .ok flattened →
      (∀ name first, roots.find? (·.name == name) = some first →
        flattened.get? name = some first.resolve ∧
          ∀ child ∈ first.resolve.children, child ∈ flattened.names) ∧
      (∀ name ∈ flattened.names, name ∉ roots.map (·.name) →
        ∃ known, registry.find? name = some known ∧ flattened.get? name = some known) ∧
      ∀ name, name ∈ flattened.names ↔
        registry.ReachedFrom (roots.map Descriptor.resolve) name := by
  refine ⟨fun strict => ?_, fun lenient => ?_, fun flattened succeeded => ?_⟩
  · exact ⟨ofRoots_conflicts_iff strict, fun service name => ofRoots_nameConflict_iff strict⟩
  · exact ⟨ofRoots_not_nameConflict lenient, ofRoots_ok_iff lenient⟩
  · refine ⟨fun name first => first_kept succeeded, fun name => registered_kept succeeded, ?_⟩
    intro name
    rw [Registry.reachedFrom_resolve_iff]
    exact (ofRoots_closure succeeded).mem_names_iff name

/-- Two roots of one name, the first of which refers to itself and to a leaf, and a root that is
registered with other fields. -/
def rivals : List Descriptor :=
  [{ name := "ATypeDef", fields := [{ name := "Next", type := .ref "ATypeDef" },
      { name := "Leaf", type := .listOf (.ref "LeafTypeDef") }] },
   { name := "BTypeDef", fields := [{ name := "A", type := .ref "ATypeDef" }] },
   { name := "ATypeDef", fields := [{ name := "Lost", type := .ref "LostTypeDef" }] }]

def stray : Descriptor where
  name := "StrayTypeDef"
  fields := [{ name := "Lost", type := .ref "LostTypeDef" }]

def rivalLeaf : Descriptor where
  name := "LeafTypeDef"
  docstring := "A leaf."

def rivalRegistry (policy : DuplicatePolicy) : Registry :=
  ((Registry.empty "s3" policy).add { name := "BTypeDef" }).add rivalLeaf

theorem rivals_known {name : String}
    (reached : (rivalRegistry .firstWins).ReachedFrom (rivals.map Descriptor.resolve) name) :
    name ∈ rivals.map (·.name) ∨ (rivalRegistry .firstWins).contains name := by
  have known : ∀ name ∈ "LeafTypeDef" :: rivals.map (·.name),
      name ∈ rivals.map (·.name) ∨ (rivalRegistry .firstWins).contains name := by
    decide
  exact known name (reached.mem_of_closedList (fun _ => List.mem_cons_of_mem _) (by decide))

/-- The roots conflict under two names and one reference leads nowhere: the lesser name is
reported. Where the first one wins, the root that leads nowhere is dropped for the first of its
name. -/
theorem rivals_settled :
    (rivalRegistry .strict).LeastConflict (stray :: rivals) "ATypeDef" ∧
    ofRoots (rivalRegistry .strict) (stray :: rivals) = .error (.nameConflict "s3" "ATypeDef") ∧
    ∃ flattened, ofRoots (rivalRegistry .firstWins) rivals = .ok flattened ∧
      flattened.get? "ATypeDef" = some (Descriptor.ofFields "ATypeDef"
        [{ name := "Next", type := .selfRef },
         { name := "Leaf", type := .listOf (.ref "LeafTypeDef") }]) ∧
      flattened.get? "LeafTypeDef" = some rivalLeaf := by
  obtain ⟨strict, _, _⟩ := ofRoots_settlesRoots (rivalRegistry .strict) (stray :: rivals)
  obtain ⟨_, lenient, ofSearch⟩ := ofRoots_settlesRoots (rivalRegistry .firstWins) rivals
  have least : (rivalRegistry .strict).LeastConflict (stray :: rivals) "ATypeDef" := by
    refine ⟨⟨rivals[0], by decide, rfl, Or.inl ⟨rivals[2], by decide, rfl, by decide⟩⟩, ?_⟩
    rintro _ ⟨root, member, rfl, _⟩
    revert root
    decide
  obtain ⟨flattened, succeeded⟩ := (lenient rfl).2.2 fun name reached => rivals_known reached
  obtain ⟨firsts, others, _⟩ := ofSearch flattened succeeded
  obtain ⟨stands, below⟩ := firsts "ATypeDef" _ rfl
  obtain ⟨_, registered, kept⟩ := others "LeafTypeDef" (below _ (by decide)) (by decide)
  have leaf : (rivalRegistry .firstWins).find? "LeafTypeDef" = some rivalLeaf := by decide
  refine ⟨least, ((strict rfl).2 _ _).2 ⟨rfl, least⟩, flattened, succeeded, ?_, ?_⟩
  · exact stands.trans (by decide)
  · exact kept.trans (registered.symm.trans leaf)

end Flattened

end ServiceStubs
