import Mathlib.Data.List.Nodup
import Mathlib.Data.List.Permutation
import ServiceStubs.Proofs.Definitions
import ServiceStubs.Stub
import ServiceStubs.Text
/-!
When replacing makes two texts the same. Where no occurrence of the pattern or
of its replacement overlaps another one, replacing is undone by reading the
replacement back. So two texts come out alike exactly when they only differ in
that one has the pattern where the other has the replacement.
-/

namespace ServiceStubs.Text

/-- No occurrence of `pattern` begins within `word`, whatever follows. -/
def avoids (pattern : List Char) : List Char → Bool
  | [] => true
  | c :: rest =>
      !(c :: rest).isPrefixOf pattern && !pattern.isPrefixOf (c :: rest) && avoids pattern rest

theorem avoids_cons {pattern word : List Char} {c : Char} (free : avoids pattern (c :: word)) :
    (∀ after, ¬ pattern <+: c :: word ++ after) ∧ avoids pattern word := by
  simp only [avoids, Bool.and_eq_true, Bool.not_eq_true', Bool.eq_false_iff, ne_eq,
    List.isPrefixOf_iff_prefix] at free
  obtain ⟨⟨shorter, longer⟩, later⟩ := free
  refine ⟨fun after starts => ?_, later⟩
  rcases List.prefix_or_prefix_of_prefix starts (List.prefix_append (c :: word) after) with
    begins | begins
  · exact longer begins
  · exact shorter begins

section Replace
variable {pattern replacement : List Char}

theorem replaceFrom_unmatched {c : Char} {rest : List Char} (other : ¬ pattern <+: c :: rest) :
    replaceFrom pattern replacement 0 (c :: rest) =
      c :: replaceFrom pattern replacement 0 rest := by
  rw [replaceFrom, if_neg (by simpa using other)]

theorem replaceFrom_length (word rest : List Char) :
    replaceFrom pattern replacement word.length (word ++ rest) =
      replaceFrom pattern replacement 0 rest := by
  induction word with
  | nil => rfl
  | cons c word ih => exact ih

theorem replaceFrom_pattern (some : pattern ≠ []) (rest : List Char) :
    replaceFrom pattern replacement 0 (pattern ++ rest) =
      replacement ++ replaceFrom pattern replacement 0 rest := by
  cases pattern with
  | nil => exact absurd rfl some
  | cons c word =>
      rw [List.cons_append, replaceFrom, if_pos (by simp [List.isPrefixOf_iff_prefix])]
      exact congrArg (replacement ++ ·) (replaceFrom_length word rest)

theorem replaceFrom_append {word : List Char} (free : avoids pattern word) (rest : List Char) :
    replaceFrom pattern replacement 0 (word ++ rest) =
      word ++ replaceFrom pattern replacement 0 rest := by
  induction word with
  | nil => rfl
  | cons c word ih =>
      obtain ⟨other, later⟩ := avoids_cons free
      have apart : ¬ pattern <+: c :: (word ++ rest) := other rest
      rw [List.cons_append, replaceFrom_unmatched apart, ih later, List.cons_append]

/-- What no replacement can have brought in was there before. -/
theorem eq_append_of_replaceFrom {word text after : List Char} (free : avoids replacement word)
    (replaced : replaceFrom pattern replacement 0 text = word ++ after) :
    ∃ rest, text = word ++ rest ∧ replaceFrom pattern replacement 0 rest = after := by
  induction word generalizing text with
  | nil => exact ⟨text, rfl, replaced⟩
  | cons c word ih =>
      obtain ⟨other, later⟩ := avoids_cons free
      cases text with
      | nil => cases replaced
      | cons d text =>
          by_cases starts : pattern.isPrefixOf (d :: text)
          · rw [replaceFrom, if_pos starts] at replaced
            exact absurd ⟨_, replaced⟩ (other after)
          · rw [replaceFrom, if_neg starts, List.cons_append] at replaced
            obtain ⟨rfl, behind⟩ := List.cons.inj replaced
            obtain ⟨rest, rfl, same⟩ := ih later behind
            exact ⟨rest, rfl, same⟩

/-- The texts differ at most in that one has `pattern` where the other has `replacement`. -/
inductive Respelled (pattern replacement : List Char) : List Char → List Char → Prop
  | nil : Respelled pattern replacement [] []
  | keep (c : Char) {a b : List Char} : Respelled pattern replacement a b →
      Respelled pattern replacement (c :: a) (c :: b)
  | replaced {a b : List Char} : Respelled pattern replacement a b →
      Respelled pattern replacement (pattern ++ a) (replacement ++ b)
  | restored {a b : List Char} : Respelled pattern replacement a b →
      Respelled pattern replacement (replacement ++ a) (pattern ++ b)

theorem Respelled.append {a b : List Char} (respelled : Respelled pattern replacement a b)
    (word : List Char) : Respelled pattern replacement (word ++ a) (word ++ b) := by
  induction word with
  | nil => exact respelled
  | cons c word ih => exact ih.keep c

/-- Occurrences of the two texts do not overlap, be they of the same one or of both. -/
structure Apart (pattern replacement : List Char) : Prop where
  pattern_ne : pattern ≠ []
  replacement_ne : replacement ≠ []
  copied : avoids pattern replacement
  pattern_within : avoids pattern pattern.tail
  replacement_within_pattern : avoids replacement pattern.tail
  replacement_within : avoids replacement replacement.tail

namespace Apart
variable (apart : Apart pattern replacement)
include apart

/-- One text has the pattern in front: then the other one has either of the two there. -/
theorem of_pattern {a b : List Char}
    (same : replaceFrom pattern replacement 0 (pattern ++ a) =
      replaceFrom pattern replacement 0 b) :
    ∃ rest, (b = pattern ++ rest ∨ b = replacement ++ rest) ∧
      replaceFrom pattern replacement 0 a = replaceFrom pattern replacement 0 rest := by
  rw [replaceFrom_pattern apart.pattern_ne] at same
  by_cases starts : pattern <+: b
  · obtain ⟨rest, rfl⟩ := starts
    rw [replaceFrom_pattern apart.pattern_ne] at same
    exact ⟨rest, Or.inl rfl, List.append_cancel_left same⟩
  · obtain ⟨first, word, spelled⟩ := List.exists_cons_of_ne_nil apart.replacement_ne
    have free : avoids replacement word := by
      simpa [spelled] using apart.replacement_within
    cases b with
    | nil => simp [spelled, replaceFrom] at same
    | cons c b =>
        rw [replaceFrom_unmatched starts, spelled, List.cons_append] at same
        obtain ⟨rfl, behind⟩ := List.cons.inj same
        rw [← spelled] at behind
        obtain ⟨rest, rfl, later⟩ := eq_append_of_replaceFrom free behind.symm
        exact ⟨rest, Or.inr (by rw [spelled, List.cons_append]), later.symm⟩

theorem respelled_of_same : ∀ {a b : List Char}, replaceFrom pattern replacement 0 a =
    replaceFrom pattern replacement 0 b → Respelled pattern replacement a b := by
  intro a b same
  -- On the length: behind an occurrence the texts go on several characters later.
  induction length : a.length using Nat.strongRecOn generalizing a b with
  | ind n ih =>
    have shorter : ∀ {front rest : List Char}, front ≠ [] → a = front ++ rest → rest.length < n := by
      rintro front rest some rfl
      have positive := List.length_pos_iff.2 some
      rw [List.length_append] at length
      omega
    by_cases left : pattern <+: a
    · obtain ⟨rest, rfl⟩ := left
      obtain ⟨other, rfl | rfl, later⟩ := apart.of_pattern same
      · exact (ih _ (shorter apart.pattern_ne rfl) later rfl).append pattern
      · exact .replaced (ih _ (shorter apart.pattern_ne rfl) later rfl)
    · by_cases right : pattern <+: b
      · obtain ⟨rest, rfl⟩ := right
        obtain ⟨other, rfl | rfl, later⟩ := apart.of_pattern same.symm
        · exact absurd (List.prefix_append pattern other) left
        · exact .restored (ih _ (shorter apart.replacement_ne rfl) later.symm rfl)
      · cases a with
        | nil =>
            cases b with
            | nil => exact .nil
            | cons d b =>
                rw [replaceFrom_unmatched right] at same
                cases same
        | cons c a =>
            rw [replaceFrom_unmatched left] at same
            cases b with
            | nil => cases same
            | cons d b =>
                rw [replaceFrom_unmatched right] at same
                obtain ⟨rfl, later⟩ := List.cons.inj same
                exact .keep c (ih _ (shorter (List.cons_ne_nil c []) rfl) later rfl)

/-- An occurrence that begins one character before the first text begins there in the second. -/
theorem starts_of_same {c : Char} {a b : List Char} (same : replaceFrom pattern replacement 0 a =
    replaceFrom pattern replacement 0 b) (starts : pattern <+: c :: a) :
    replaceFrom pattern replacement 0 (c :: a) = replaceFrom pattern replacement 0 (c :: b) := by
  obtain ⟨first, word, spelled⟩ := List.exists_cons_of_ne_nil apart.pattern_ne
  have free : avoids pattern word := by simpa [spelled] using apart.pattern_within
  have free' : avoids replacement word := by simpa [spelled] using apart.replacement_within_pattern
  obtain ⟨rest, front⟩ := starts
  rw [spelled, List.cons_append] at front
  obtain ⟨rfl, rfl⟩ := List.cons.inj front
  -- The rest of the occurrence is copied, and no replacement can have brought it in.
  rw [replaceFrom_append free] at same
  obtain ⟨other, rfl, later⟩ := eq_append_of_replaceFrom free' same.symm
  rw [← List.cons_append, ← List.cons_append, ← spelled, replaceFrom_pattern apart.pattern_ne,
    replaceFrom_pattern apart.pattern_ne, later]

theorem same_of_respelled {a b : List Char} (respelled : Respelled pattern replacement a b) :
    replaceFrom pattern replacement 0 a = replaceFrom pattern replacement 0 b := by
  induction respelled with
  | nil => rfl
  | @keep c a b _ ih =>
      -- The character kept may still be the first one of an occurrence.
      by_cases left : pattern <+: c :: a
      · exact apart.starts_of_same ih left
      · by_cases right : pattern <+: c :: b
        · exact (apart.starts_of_same ih.symm right).symm
        · rw [replaceFrom_unmatched left, replaceFrom_unmatched right, ih]
  | replaced _ ih => rw [replaceFrom_pattern apart.pattern_ne, replaceFrom_append apart.copied, ih]
  | restored _ ih => rw [replaceFrom_append apart.copied, replaceFrom_pattern apart.pattern_ne, ih]

theorem replaceFrom_eq_iff {a b : List Char} :
    replaceFrom pattern replacement 0 a = replaceFrom pattern replacement 0 b ↔
      Respelled pattern replacement a b :=
  ⟨apart.respelled_of_same, apart.same_of_respelled⟩

end Apart

end Replace

end ServiceStubs.Text

/-!
The names that the two modules of definitions bind. The names of descriptors
are told apart while a package is flattened, but what is bound is made from
them: the bases of a split definition have a prefix, and a data class has part
of the name replaced. Such a name may be one that another definition has.
-/

namespace ServiceStubs

/-- What a statement that binds `name` begins with: an assignment or the head of a class. -/
def bindingHeads (name : String) : List String :=
  [name ++ " = ", "class " ++ name ++ "(", "@dataclass\nclass " ++ name ++ "("]

def Binds (statement name : String) : Prop :=
  ∃ head ∈ bindingHeads name, head.toList <+: statement.toList

/-- The text is made of statements that bind the names one after the other. -/
def BindsAll (text : String) (names : List String) : Prop :=
  ∃ statements, text = String.intercalate "\n" statements ∧ List.Forall₂ Binds statements names

theorem binds_of_mem {head name : String} (known : head ∈ bindingHeads name) : Binds head name :=
  ⟨head, known, List.prefix_refl _⟩

theorem Binds.append {statement name : String} (binds : Binds statement name) (rest : String) :
    Binds (statement ++ rest) name := by
  obtain ⟨head, known, starts⟩ := binds
  exact ⟨head, known, String.toList_append ▸ starts.trans (List.prefix_append _ _)⟩

namespace Descriptor
variable (table : PresentationTable) (descriptor : Descriptor)

def bases : List String :=
  if descriptor.hasBoth then [descriptor.requiredBase, descriptor.optionalBase] else []

def boundNames : List String :=
  descriptor.bases ++ [descriptor.name]

theorem mappingType_binds (name : String) (fields : List Field) (isPartial : Bool) :
    Binds (mappingType table name fields isPartial) name := by
  refine ⟨name ++ " = ", List.mem_cons_self, ?_⟩
  simp only [mappingType, String.toList_append, List.append_assoc, List.prefix_append_right_inj]
  exact List.prefix_append [' ', '=', ' '] _

theorem definition_binds : BindsAll (descriptor.definition table) descriptor.boundNames := by
  unfold definition boundNames bases
  split
  · refine ⟨[mappingType table descriptor.requiredBase descriptor.requiredFields false,
      mappingType table descriptor.optionalBase descriptor.optionalFields true ++ "\n",
      "class " ++ descriptor.name ++ "(" ++ (descriptor.requiredBase ++ ", "
        ++ descriptor.optionalBase ++ "):\n    pass")], by simp [← String.toList_inj], ?_⟩
    have combined : Binds ("class " ++ descriptor.name ++ "(") descriptor.name :=
      binds_of_mem (.tail _ List.mem_cons_self)
    exact .cons (mappingType_binds ..) <| .cons ((mappingType_binds ..).append "\n") <|
      .cons (combined.append _) .nil
  · refine ⟨[mappingType table descriptor.name descriptor.fields descriptor.hasOptional],
      by simp, .cons (mappingType_binds ..) .nil⟩

theorem dataclass_binds :
    BindsAll (descriptor.dataclass table) [dataclassName descriptor.name] := by
  refine ⟨[descriptor.dataclass table], by simp, .cons ?_ .nil⟩
  refine ⟨"@dataclass\nclass " ++ dataclassName descriptor.name ++ "(", by simp [bindingHeads], ?_⟩
  unfold dataclass
  cases descriptor.dataclassBody table <;> simp

variable {descriptor}

theorem mem_bases {base : String} : base ∈ descriptor.bases ↔
    descriptor.hasBoth ∧ (base = descriptor.requiredBase ∨ base = descriptor.optionalBase) := by
  unfold bases
  split <;> simp_all

theorem requiredBase_ne_optionalBase (descriptor other : Descriptor) :
    descriptor.requiredBase ≠ other.optionalBase := by
  intro same
  have spelled := congrArg String.toList same
  simp [requiredBase, optionalBase] at spelled

theorem nodup_bases : descriptor.bases.Nodup := by
  unfold bases
  split <;> simp [requiredBase_ne_optionalBase]

theorem name_eq_of_mem_bases {other : Descriptor} {base : String} (first : base ∈ descriptor.bases)
    (second : base ∈ other.bases) : descriptor.name = other.name := by
  rcases (mem_bases.1 first).2 with rfl | rfl <;> rcases (mem_bases.1 second).2 with same | same
  · simpa [requiredBase] using same
  · exact absurd same (requiredBase_ne_optionalBase _ _)
  · exact absurd same.symm (requiredBase_ne_optionalBase _ _)
  · simpa [optionalBase] using same

/-- Bases are told apart by the names they are made from; only a name given may be that of one. -/
theorem nodup_boundNames_iff {descriptors : List Descriptor}
    (distinct : (descriptors.map (·.name)).Nodup) :
    (descriptors.flatMap boundNames).Nodup ↔
      ∀ descriptor ∈ descriptors, ∀ base ∈ descriptor.bases,
        base ∉ descriptors.map (·.name) := by
  have bases : (descriptors.flatMap bases).Nodup := by
    refine List.nodup_flatMap.2 ⟨fun _ _ => nodup_bases, ?_⟩
    refine (List.pairwise_map.1 distinct).imp fun apart base first second => ?_
    exact apart (name_eq_of_mem_bases first second)
  -- All the bases first, then all the names: only between the two can a name be bound twice.
  have rearranged : (descriptors.flatMap Descriptor.bases ++ descriptors.map (·.name)).Perm
      (descriptors.flatMap boundNames) := by
    rw [List.map_eq_flatMap]
    exact List.flatMap_append_perm ..
  rw [← rearranged.nodup_iff, List.nodup_append']
  simp only [bases, distinct, true_and, List.disjoint_left, List.mem_flatMap]
  exact ⟨fun apart descriptor member base made => apart ⟨descriptor, member, made⟩,
    fun apart base ⟨descriptor, member, made⟩ => apart descriptor member base made⟩

end Descriptor

/-- The names differ at most in that one has `TypeDef` where the other has `DataClassDef`. -/
def SameDataclass (a b : String) : Prop :=
  Text.Respelled "TypeDef".toList "DataClassDef".toList a.toList b.toList

theorem dataclassName_eq_iff {a b : String} :
    dataclassName a = dataclassName b ↔ SameDataclass a b := by
  have apart : Text.Apart "TypeDef".toList "DataClassDef".toList := by
    constructor <;> decide
  rw [dataclassName, dataclassName, Text.replace, Text.replace, String.ofList_inj]
  exact apart.replaceFrom_eq_iff

namespace Package
variable {package flat : Package}

theorem typeDefs_bindsAll (package : Package) :
    List.Forall₂ (fun block descriptor => BindsAll block descriptor.boundNames)
      (ModuleView.typeDefs package).blocks package.typeDefs := by
  refine List.forall₂_map_left_iff.2 (List.forall₂_same.2 fun descriptor _ => ?_)
  exact descriptor.definition_binds _

theorem dataclassDefs_bindsAll (package : Package) :
    List.Forall₂ (fun block descriptor => BindsAll block [dataclassName descriptor.name])
      (ModuleView.dataclassDefs package).blocks package.typeDefs := by
  refine List.forall₂_map_left_iff.2 (List.forall₂_same.2 fun descriptor _ => ?_)
  exact descriptor.dataclass_binds _

/-- After flattening the names that a module of definitions binds are told apart except for two
cases: a definition has the name of another one's base, or two names come to the same data class. -/
theorem flatten_bindsOnce_iff (flattened : package.flatten = .ok flat) :
    List.Forall₂ (fun block descriptor => BindsAll block descriptor.boundNames)
        (ModuleView.typeDefs flat).blocks flat.typeDefs ∧
    List.Forall₂ (fun block descriptor => BindsAll block [dataclassName descriptor.name])
        (ModuleView.dataclassDefs flat).blocks flat.typeDefs ∧
    ((flat.typeDefs.flatMap Descriptor.boundNames).Nodup ↔
      ∀ descriptor ∈ flat.typeDefs, ∀ base ∈ descriptor.bases, base ∉ flat.typeDefNames) ∧
    ((flat.typeDefNames.map dataclassName).Nodup ↔
      ∀ a ∈ flat.typeDefNames, ∀ b ∈ flat.typeDefNames, SameDataclass a b → a = b) := by
  obtain ⟨definitions, closure, rfl⟩ := flatten_cases flattened
  have distinct : (package.setTypeDefs definitions).typeDefNames.Nodup :=
    Descriptor.names_nodup closure.increasing
  refine ⟨typeDefs_bindsAll _, dataclassDefs_bindsAll _,
    Descriptor.nodup_boundNames_iff distinct, ?_⟩
  simp only [List.nodup_map_iff_inj_on distinct, dataclassName_eq_iff]

def exposing (shapes : List Descriptor) : Package where
  name := "stubs_s3"
  pypiName := "stubs-s3"
  version := "1.2.3"
  service := { name := "s3", className := "S3", moduleName := "stubs_s3" }
  client :=
    { name := "S3Client", aliasName := "Client",
      methods := shapes.map fun shape =>
        { name := "get", returnType := .ref shape.name } }
  registry := shapes.foldl Registry.add (Registry.empty "s3" .strict)

def splitShape : Descriptor where
  name := "FooTypeDef"
  fields := [{ name := "Name", type := .builtin "str" },
    { name := "Size", type := .builtin "int", required := false }]

theorem splitShape_bindsOnce :
    ∃ flat, (exposing [splitShape, { name := "BarTypeDef" }]).flatten = .ok flat ∧
      (flat.typeDefs.flatMap Descriptor.boundNames).Nodup ∧
      ∀ a ∈ flat.typeDefNames, ∀ b ∈ flat.typeDefNames, SameDataclass a b → a = b := by
  have flattened : (exposing [splitShape, { name := "BarTypeDef" }]).flatten =
      .ok ((exposing [splitShape, { name := "BarTypeDef" }]).setTypeDefs
        { descriptors := [{ name := "BarTypeDef" }, splitShape]
          presentation := { entries := [("BarTypeDef", .direct), ("FooTypeDef", .direct)] } }) := by
    cbv
  obtain ⟨_, _, defined, dataclasses⟩ := flatten_bindsOnce_iff flattened
  exact ⟨_, flattened, defined.2 (by decide), dataclasses.1 (by decide)⟩

/-- Shapes named as the first one's data class and as one of its bases. -/
def overridingShapes : List Descriptor :=
  [splitShape, { name := "FooDataClassDef" }, { name := "_RequiredFooTypeDef" }]

theorem overriding_boundTwice :
    ∃ flat, (exposing overridingShapes).flatten = .ok flat ∧
      ¬ (flat.typeDefs.flatMap Descriptor.boundNames).Nodup ∧
      ¬ (flat.typeDefNames.map dataclassName).Nodup := by
  have flattened : (exposing overridingShapes).flatten =
      .ok ((exposing overridingShapes).setTypeDefs
        { descriptors := [{ name := "FooDataClassDef" }, splitShape,
            { name := "_RequiredFooTypeDef" }]
          presentation :=
            { entries := [("FooDataClassDef", .direct), ("FooTypeDef", .direct),
                ("_RequiredFooTypeDef", .direct)] } }) := by cbv
  exact ⟨_, flattened, by decide, by decide⟩

end Package

end ServiceStubs
