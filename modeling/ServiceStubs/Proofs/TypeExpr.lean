import ServiceStubs.Descriptor
import ServiceStubs.Proofs.Sorted
import ServiceStubs.TypeExpr
/-!
What the leaf types of a type say about its references, and what resolving a
descriptor leaves as it is.
-/

namespace ServiceStubs

namespace TypeExpr

instance : Std.LawfulEqCmp order where
  compare_self := (order_eq_iff _ _).2 rfl
  eq_of_compare := (order_eq_iff _ _).1

theorem mem_atoms {leaf type : TypeExpr} : leaf ∈ type.atoms ↔ leaf ∈ type.leaves :=
  Sorted.mem_ofList

theorem mem_atomsOf {leaf : TypeExpr} {types : List TypeExpr} :
    leaf ∈ atomsOf types ↔ ∃ type ∈ types, leaf ∈ type.atoms := by
  simp [atomsOf, Sorted.mem_ofList, mem_atoms]

mutual

theorem ref_mem_leaves (name : String) :
    ∀ type : TypeExpr, ref name ∈ type.leaves ↔ name ∈ type.references
  | .container _ args => by
      simp [leaves, references, ref_mem_leavesAll name args]
  | .ref _ => by simp [leaves, references]
  | .builtin _ => by simp [leaves, references]
  | .external _ => by simp [leaves, references]
  | .selfRef => by simp [leaves, references]
  | .literal _ => by simp [leaves, references]

theorem ref_mem_leavesAll (name : String) :
    ∀ types : List TypeExpr, ref name ∈ leavesAll types ↔ name ∈ referencesAll types
  | [] => by simp [leavesAll, referencesAll]
  | type :: rest => by
      simp [leavesAll, referencesAll, ref_mem_leaves name type, ref_mem_leavesAll name rest]

end

theorem ref_mem_atoms {name : String} {type : TypeExpr} :
    ref name ∈ type.atoms ↔ name ∈ type.references :=
  mem_atoms.trans (ref_mem_leaves name type)

mutual

theorem closeOver_eq_self (name : String) :
    ∀ type : TypeExpr, name ∉ type.references → type.closeOver name = type
  | .ref target, absent => by
      have other : target ≠ name := fun same => absent (by simp [references, same])
      simp [closeOver, other]
  | .container _ args, absent => by
      simp [closeOver, closeOverAll_eq_self name args (by simpa [references] using absent)]
  | .builtin _, _ => by simp [closeOver]
  | .external _, _ => by simp [closeOver]
  | .selfRef, _ => by simp [closeOver]
  | .literal _, _ => by simp [closeOver]

theorem closeOverAll_eq_self (name : String) :
    ∀ types : List TypeExpr, name ∉ referencesAll types → closeOverAll name types = types
  | [], _ => by simp [closeOverAll]
  | type :: rest, absent => by
      simp only [referencesAll, List.mem_append, not_or] at absent
      simp [closeOverAll, closeOver_eq_self name type absent.1,
        closeOverAll_eq_self name rest absent.2]

end

end TypeExpr

namespace Descriptor

theorem order_eq_iff {a b : Descriptor} : a.order b = .eq ↔ a.name = b.name := by
  simp [order]

theorem resolve_eq_self {descriptor : Descriptor} (resolved : descriptor.IsResolved) :
    descriptor.resolve = descriptor := by
  have unchanged : descriptor.fields.map (Field.closeOver descriptor.name) = descriptor.fields := by
    rw [List.map_congr_left (g := id), List.map_id]
    intro field member
    simp [Field.closeOver, TypeExpr.closeOver_eq_self _ _ (resolved field member)]
  simp [resolve, unchanged]

theorem mem_children {descriptor : Descriptor} {child : String} :
    child ∈ descriptor.children ↔
      child ≠ descriptor.name ∧ ∃ field ∈ descriptor.fields, child ∈ field.type.references := by
  simp [children, Sorted.mem_ofList, and_comm]

theorem agrees_self (descriptor : Descriptor) : descriptor.agrees descriptor = true := by
  simp [agrees]

/-- All that a descriptor says of the service; its docstring is not part of it. -/
def layout (descriptor : Descriptor) : String × List Field :=
  (descriptor.name, descriptor.fields)

variable {a b : Descriptor}

theorem agrees_iff : a.agrees b ↔ a.layout = b.layout := by
  simp [agrees, layout]

theorem name_of_layout (same : a.layout = b.layout) : a.name = b.name :=
  congrArg Prod.fst same

theorem children_of_layout (same : a.layout = b.layout) : a.children = b.children := by
  have fields : a.fields = b.fields := congrArg Prod.snd same
  simp only [children, fields, name_of_layout same]

theorem children_resolve (descriptor : Descriptor) :
    descriptor.resolve.children = descriptor.children := by
  refine Sorted.Increasing.eq_of_mem_iff (Sorted.increasing_ofList _) (Sorted.increasing_ofList _)
    fun child => ?_
  rw [mem_children, mem_children]
  -- Closing over the name only takes references to that name away.
  apply and_congr_right
  intro (other : child ≠ descriptor.name)
  constructor
  · rintro ⟨field, member, occurs⟩
    obtain ⟨given, listed, rfl⟩ := List.mem_map.1 member
    have kept : child ∈ given.type.references ∧ child ≠ descriptor.name := by
      simpa [Field.closeOver, TypeExpr.references_closeOver] using occurs
    exact ⟨given, listed, kept.1⟩
  · rintro ⟨given, listed, occurs⟩
    refine ⟨given.closeOver descriptor.name, List.mem_map.2 ⟨given, listed, rfl⟩, ?_⟩
    simp [Field.closeOver, TypeExpr.references_closeOver, occurs, other]

theorem resolve_layout (same : a.layout = b.layout) : a.resolve.layout = b.resolve.layout := by
  have fields : a.fields = b.fields := congrArg Prod.snd same
  simp only [layout, resolve, fields, name_of_layout same]

end Descriptor

/-!
Which names a presentation table has, and how it presents them.
-/

universe u

instance transCmpFst {β : Type u} : Std.TransCmp (fun a b : String × β => compare a.1 b.1) :=
  inferInstanceAs (Std.TransCmp (compareOn Prod.fst))

namespace PresentationTable

theorem lookup_cons_eq_ite (name : String) (mode : Presentation) (other : String)
    (entries : List (String × Presentation)) :
    ((name, mode) :: entries).lookup other =
      if other = name then some mode else entries.lookup other := by
  by_cases same : other = name
  · simp [same]
  · have differs : (other == name) = false := beq_false_of_ne same
    simp [List.lookup_cons, differs, same]

theorem lookup_insert (name : String) (mode : Presentation) (other : String)
    (entries : List (String × Presentation)) :
    (Sorted.insert (fun a b => compare a.1 b.1) (name, mode) entries).lookup other =
      if other = name then some mode else entries.lookup other := by
  induction entries with
  | nil => exact lookup_cons_eq_ite name mode other []
  | cons entry rest ih =>
      obtain ⟨known, was⟩ := entry
      unfold Sorted.insert
      split
      · exact lookup_cons_eq_ite name mode other _
      · rename_i equal
        obtain rfl : name = known := Std.LawfulEqOrd.eq_of_compare equal
        rw [lookup_cons_eq_ite, lookup_cons_eq_ite]
        by_cases same : other = name <;> simp [same]
      · rename_i above
        have apart : name ≠ known := by
          rintro rfl
          simp at above
        rw [lookup_cons_eq_ite, lookup_cons_eq_ite, ih]
        by_cases same : other = name
        · simp [same, apart]
        · simp [same]

theorem mode_set (table : PresentationTable) (name : String) (mode : Presentation)
    (other : String) :
    (table.set name mode).mode other = if other = name then mode else table.mode other := by
  unfold PresentationTable.mode PresentationTable.set
  rw [lookup_insert]
  split <;> rfl

/-- Where a table is set for several names, the mode of each comes from its own name. -/
theorem mode_foldl_set (modeOf : String → Presentation) (names : List String)
    (table : PresentationTable) (name : String) :
    (names.foldl (fun found child => found.set child (modeOf child)) table).mode name =
      if name ∈ names then modeOf name else table.mode name := by
  induction names generalizing table with
  | nil => simp
  | cons child rest ih =>
      rw [List.foldl_cons, ih, mode_set]
      by_cases later : name ∈ rest
      · simp [later]
      · by_cases same : name = child <;> simp [later, same]

structure Presents (table : PresentationTable) (direct : String → Prop) (names : List String) :
    Prop where
  increasing : Sorted.Increasing (fun a b => compare a.1 b.1) table.entries
  mem_iff : ∀ name mode,
    (name, mode) ∈ table.entries ↔ name ∈ names ∧ (mode = .direct ↔ direct name)

namespace Presents
variable {table : PresentationTable} {direct : String → Prop} {names : List String}

theorem nothing : Presents {} direct [] :=
  ⟨List.Pairwise.nil, by simp⟩

theorem set (presents : Presents table direct names) {name : String} {mode : Presentation}
    (fresh : name ∉ names) (agrees : mode = .direct ↔ direct name) :
    Presents (table.set name mode) direct (name :: names) := by
  have distinct : ∀ entry ∈ table.entries, compare name entry.1 ≠ .eq := by
    intro entry member same
    have known := ((presents.mem_iff entry.1 entry.2).1 member).1
    exact fresh (Std.LawfulEqOrd.eq_of_compare same ▸ known)
  refine ⟨presents.increasing.insert _, fun other otherMode => ?_⟩
  have members : (other, otherMode) ∈ (table.set name mode).entries ↔
      (other, otherMode) = (name, mode) ∨ (other, otherMode) ∈ table.entries :=
    Sorted.mem_insert_of_distinct distinct
  rw [members, presents.mem_iff, List.mem_cons]
  constructor
  · rintro (same | ⟨member, shown⟩)
    · cases same
      exact ⟨Or.inl rfl, agrees⟩
    · exact ⟨Or.inr member, shown⟩
  · rintro ⟨rfl | member, shown⟩
    · have equal : otherMode = mode := by
        cases otherMode <;> cases mode <;> simp_all
      exact Or.inl (equal ▸ rfl)
    · exact Or.inr ⟨member, shown⟩

theorem congr (presents : Presents table direct names) {otherDirect : String → Prop}
    {otherNames : List String} (sameNames : ∀ name, name ∈ otherNames ↔ name ∈ names)
    (sameDirect : ∀ name ∈ names, (otherDirect name ↔ direct name)) :
    Presents table otherDirect otherNames := by
  refine ⟨presents.increasing, fun name mode => ?_⟩
  rw [presents.mem_iff, sameNames]
  exact and_congr_right fun member => by rw [sameDirect name member]

theorem unique (presents : Presents table direct names) {other : PresentationTable}
    (alsoPresents : Presents other direct names) : table = other := by
  have entries : table.entries = other.entries := by
    refine presents.increasing.eq_of_mem_iff alsoPresents.increasing fun entry => ?_
    rw [presents.mem_iff entry.1 entry.2, alsoPresents.mem_iff entry.1 entry.2]
  cases table
  cases other
  cases entries
  rfl

theorem keys_eq (presents : Presents table direct names)
    (increasing : Sorted.Increasing compare names) : table.entries.map Prod.fst = names := by
  classical
  refine Sorted.Increasing.eq_of_mem_iff (List.pairwise_map.2 presents.increasing) increasing
    fun name => ?_
  constructor
  · intro member
    obtain ⟨entry, listed, rfl⟩ := List.mem_map.1 member
    exact ((presents.mem_iff entry.1 entry.2).1 listed).1
  · intro member
    let mode : Presentation := if direct name then .direct else .forwardRef
    have agrees : mode = .direct ↔ direct name := by
      by_cases shown : direct name <;> simp [mode, shown]
    exact List.mem_map.2 ⟨(name, mode), (presents.mem_iff name mode).2 ⟨member, agrees⟩, rfl⟩

end Presents

end PresentationTable

end ServiceStubs
