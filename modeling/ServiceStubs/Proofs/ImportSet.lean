import ServiceStubs.Import
import ServiceStubs.Proofs.Sorted
/-!
How the imports of a file grow. Adding a record may take the place of another
of the same source and name, and which of the two is kept decides gate, local
name and fallback. What survives is stated without these: every name needed is
imported, nothing is imported that is not accounted for, and a gated import
finds the version check beside it.
-/

namespace ServiceStubs

instance : Std.TransOrd ModulePath :=
  inferInstanceAs (Std.TransCmp (compareOn ModulePath.segments))

theorem ModulePath.compare_eq_iff {a b : ModulePath} : compare a b = .eq ↔ a = b := by
  obtain ⟨left⟩ := a
  obtain ⟨right⟩ := b
  change compare left right = .eq ↔ _
  rw [Std.LawfulEqOrd.compare_eq_iff_eq, mk.injEq]

namespace ImportRecord

instance : Std.TransCmp order :=
  inferInstanceAs (Std.TransCmp (compareLex (compareOn source) (compareOn name)))

theorem order_eq_iff {a b : ImportRecord} :
    a.order b = .eq ↔ a.source = b.source ∧ a.name = b.name := by
  simp [order, Ordering.then_eq_eq, ModulePath.compare_eq_iff]

theorem sameImport_iff {a b : ImportRecord} :
    a.sameImport b ↔ a.source = b.source ∧ a.name = b.name := by
  simp [sameImport]

theorem absolute_name (record : ImportRecord) (module : String) :
    (record.absolute module).name = record.name := by
  unfold absolute
  split <;> rfl

theorem absolute_fallback (record : ImportRecord) (module : String) :
    (record.absolute module).fallback = record.fallback := by
  unfold absolute
  split <;> rfl

theorem absolute_of_sibling_eq_false {record : ImportRecord} (outside : record.sibling = false)
    (module : String) : record.absolute module = record := by
  simp [absolute, outside]

end ImportRecord

namespace ImportSet

/-- What a file of the package at `module` imports when it needs the records `needed` holds of
beside those of `baseline`. -/
structure Serves (module : String) (baseline : List ImportRecord) (needed : ImportRecord → Prop)
    (set : ImportSet) : Prop where
  increasing : Sorted.Increasing ImportRecord.order set.records
  complete : ∀ record, needed record → ∃ imported ∈ set.records, imported.name = record.name
  minimal : ∀ imported ∈ set.records, imported = versionCheck ∨ imported ∈ baseline ∨
    ∃ record, needed record ∧ imported.sameImport (record.absolute module)
  checked : ∀ imported ∈ set.records, imported.needsVersionCheck → versionCheck ∈ set.records

/-- The record does not stand in the way of the version check. -/
def Spares (record : ImportRecord) : Prop :=
  record = versionCheck ∨ record.name.isSome

section Insert
variable {set : ImportSet} {record : ImportRecord}

theorem mem_insert_self (set : ImportSet) (record : ImportRecord) :
    record ∈ (set.insert record).records :=
  Sorted.mem_insert_self record set.records

theorem versionCheck_mem_insert (spares : Spares record) (present : versionCheck ∈ set.records) :
    versionCheck ∈ (set.insert record).records := by
  rcases spares with rfl | named
  · exact mem_insert_self set versionCheck
  · apply Sorted.mem_insert_of_mem present
    intro same
    have nameless : record.name = none := (ImportRecord.order_eq_iff.1 same).2
    rw [nameless] at named
    cases named

theorem exists_name_insert {imported : ImportRecord} (present : imported ∈ set.records) :
    ∃ kept ∈ (set.insert record).records, kept.name = imported.name := by
  by_cases same : record.order imported = .eq
  · exact ⟨record, mem_insert_self set record, (ImportRecord.order_eq_iff.1 same).2⟩
  · exact ⟨imported, Sorted.mem_insert_of_mem present same, rfl⟩

end Insert

theorem records_insertAll (set : ImportSet) (records : List ImportRecord) :
    (set.insertAll records).records =
      Sorted.insertAll ImportRecord.order records set.records := by
  induction records generalizing set with
  | nil => rfl
  | cons record rest ih => exact ih (set.insert record)

theorem mem_of_mem_ofList {records : List ImportRecord} {imported : ImportRecord}
    (present : imported ∈ (ofList records).records) : imported ∈ records := by
  rw [ofList, records_insertAll] at present
  exact Sorted.mem_of_mem_ofList present

section Serves
variable {module : String} {baseline : List ImportRecord} {needed : ImportRecord → Prop}
  {set : ImportSet}

theorem serves_empty (module : String) (baseline : List ImportRecord) :
    Serves module baseline (fun _ => False) {} where
  increasing := List.Pairwise.nil
  complete := by simp
  minimal := by simp
  checked := by simp

/-- Other records are served as well when they ask for the same names and all that asked does. -/
theorem Serves.congr (serves : Serves module baseline needed set) {other : ImportRecord → Prop}
    (complete : ∀ record, other record → ∃ asked, needed asked ∧ asked.name = record.name)
    (sound : ∀ asked, needed asked → other asked) : Serves module baseline other set where
  increasing := serves.increasing
  complete := by
    intro record asksFor
    obtain ⟨asked, needs, same⟩ := complete record asksFor
    obtain ⟨imported, present, named⟩ := serves.complete asked needs
    exact ⟨imported, present, named.trans same⟩
  minimal := by
    intro imported present
    rcases serves.minimal imported present with check | fixed | ⟨asked, needs, same⟩
    · exact Or.inl check
    · exact Or.inr (Or.inl fixed)
    · exact Or.inr (Or.inr ⟨asked, sound asked needs, same⟩)
  checked := serves.checked

/-- Inserting a record serves what was needed, and whatever else asks for the record's name. -/
theorem Serves.insert (serves : Serves module baseline needed set) {record : ImportRecord}
    {other : ImportRecord → Prop} (grows : ∀ asked, needed asked → other asked)
    (covered : ∀ asked, other asked → needed asked ∨ asked.name = record.name)
    (accounted : record = versionCheck ∨ record ∈ baseline ∨
      ∃ asked, other asked ∧ record.sameImport (asked.absolute module))
    (spares : Spares record) (gate : record.needsVersionCheck → versionCheck ∈ set.records) :
    Serves module baseline other (set.insert record) where
  increasing := serves.increasing.insert record
  complete := by
    intro asked asksFor
    rcases covered asked asksFor with needs | named
    · obtain ⟨imported, present, named⟩ := serves.complete asked needs
      obtain ⟨kept, keptPresent, same⟩ := exists_name_insert present
      exact ⟨kept, keptPresent, same.trans named⟩
    · exact ⟨record, mem_insert_self set record, named.symm⟩
  minimal := by
    intro imported present
    rcases Sorted.mem_of_mem_insert present with rfl | earlier
    · exact accounted
    · rcases serves.minimal imported earlier with check | fixed | ⟨asked, needs, same⟩
      · exact Or.inl check
      · exact Or.inr (Or.inl fixed)
      · exact Or.inr (Or.inr ⟨asked, grows asked needs, same⟩)
  checked := by
    intro imported present gated
    apply versionCheck_mem_insert spares
    rcases Sorted.mem_of_mem_insert present with rfl | earlier
    · exact gate gated
    · exact serves.checked imported earlier gated

theorem Serves.addVersionCheck (serves : Serves module baseline needed set) :
    Serves module baseline needed set.addVersionCheck :=
  serves.insert (fun _ needs => needs) (fun _ needs => Or.inl needs) (Or.inl rfl) (Or.inl rfl)
    fun gated => nomatch gated

theorem Serves.addRequired (serves : Serves module baseline needed set) {record : ImportRecord}
    (named : record.name.isSome) :
    Serves module baseline
      (fun other => needed other ∨ other = record ∧ other.isBuiltins = false)
      (set.addRequired record module) := by
  unfold ImportSet.addRequired
  cases own : record.isBuiltins with
  | true =>
      refine serves.congr (fun other asksFor => ?_) fun other needs => Or.inl needs
      rcases asksFor with needs | ⟨rfl, outside⟩
      · exact ⟨other, needs, rfl⟩
      · rw [own] at outside
        cases outside
  | false =>
      -- The version check goes in before the gated record that asks for it.
      have checked : Serves module baseline needed
          (if record.needsVersionCheck then set.addVersionCheck else set) := by
        split
        · exact serves.addVersionCheck
        · exact serves
      refine checked.insert (fun other needs => Or.inl needs) (fun other asksFor => ?_) ?_ ?_ ?_
      · rcases asksFor with needs | ⟨rfl, _⟩
        · exact Or.inl needs
        · exact Or.inr (ImportRecord.absolute_name other module).symm
      · exact Or.inr (Or.inr ⟨record, Or.inr ⟨rfl, own⟩, ImportRecord.sameImport_iff.2 ⟨rfl, rfl⟩⟩)
      · exact Or.inr ((ImportRecord.absolute_name record module).symm ▸ named)
      · intro gated
        have needsCheck : record.needsVersionCheck := by
          simpa [ImportRecord.needsVersionCheck, ImportRecord.absolute_fallback] using gated
        rw [if_pos needsCheck]
        exact mem_insert_self set versionCheck

theorem Serves.addAll (serves : Serves module baseline needed set) {records : List ImportRecord}
    (named : ∀ record ∈ records, record.name.isSome) :
    Serves module baseline
      (fun other => needed other ∨ other ∈ records ∧ other.isBuiltins = false)
      (records.foldl (fun found record => found.addRequired record module) set) := by
  induction records generalizing set needed with
  | nil =>
      refine serves.congr (fun other asksFor => ?_) fun other needs => Or.inl needs
      rcases asksFor with needs | ⟨impossible, _⟩
      · exact ⟨other, needs, rfl⟩
      · cases impossible
  | cons record rest ih =>
      have grown := ih (serves.addRequired (named record List.mem_cons_self))
        fun later member => named later (List.mem_cons_of_mem record member)
      refine grown.congr (fun other asksFor => ⟨other, ?_, rfl⟩) fun other needs => ?_
      · rcases asksFor with needs | ⟨listed, outside⟩
        · exact Or.inl (Or.inl needs)
        · rcases List.mem_cons.1 listed with rfl | later
          · exact Or.inl (Or.inr ⟨rfl, outside⟩)
          · exact Or.inr ⟨later, outside⟩
      · rcases needs with (needs | ⟨rfl, outside⟩) | ⟨later, outside⟩
        · exact Or.inl needs
        · exact Or.inr ⟨List.mem_cons_self, outside⟩
        · exact Or.inr ⟨List.mem_cons_of_mem record later, outside⟩

theorem Serves.insertAll (serves : Serves module baseline needed set)
    (present : versionCheck ∈ set.records) {fixed : List ImportRecord}
    (listed : ∀ record ∈ fixed, record ∈ baseline)
    (named : ∀ record ∈ fixed, record.name.isSome) :
    Serves module baseline needed (set.insertAll fixed) := by
  induction fixed generalizing set with
  | nil => exact serves
  | cons record rest ih =>
      have spares : Spares record := Or.inr (named record List.mem_cons_self)
      have next : Serves module baseline needed (set.insert record) :=
        serves.insert (fun _ needs => needs) (fun _ needs => Or.inl needs)
          (Or.inr (Or.inl (listed record List.mem_cons_self))) spares fun _ => present
      refine ih next (versionCheck_mem_insert spares present) ?_ ?_
      · exact fun later member => listed later (List.mem_cons_of_mem record member)
      · exact fun later member => named later (List.mem_cons_of_mem record member)

theorem serves_baseline (module : String) {rest : List ImportRecord}
    (named : ∀ record ∈ rest, record.name.isSome) :
    Serves module (versionCheck :: rest) (fun _ => False) (ofList (versionCheck :: rest)) := by
  have checked := (serves_empty module (versionCheck :: rest)).addVersionCheck
  refine checked.insertAll (mem_insert_self {} versionCheck) (fun record member => ?_) named
  exact List.mem_cons_of_mem versionCheck member

end Serves

end ImportSet

/-!
What a set of imports holds after any history of operations. Every operation
comes to a list of writes, and a write takes the place of an earlier one of the
same source and name. So the set holds, for each source and name ever written,
the record written last; what an operation skips leaves no trace, and a version
check once asked for stays.
-/

theorem ModulePath.package_eq_iff {path : ModulePath} {name : String} (named : name ≠ "") :
    path.package = name ↔ [name] <+: path.segments := by
  unfold package
  cases path.segments with
  | nil => simp [named.symm]
  | cons first rest => simp [List.cons_prefix_cons, eq_comm]

namespace ImportRecord

def identity (record : ImportRecord) : ModulePath × Option String :=
  (record.source, record.name)

theorem order_eq_iff_identity {a b : ImportRecord} :
    a.order b = .eq ↔ a.identity = b.identity := by
  rw [order_eq_iff, identity, identity, Prod.mk.injEq]

theorem isBuiltins_iff {record : ImportRecord} :
    record.isBuiltins = true ↔ [ModulePath.builtinsName] <+: record.source.segments := by
  rw [← ModulePath.package_eq_iff (by decide)]
  simp [isBuiltins, ModulePath.isBuiltins]

theorem isTypeDefs_iff {record : ImportRecord} : record.isTypeDefs = true ↔
    record.sibling = true ∧ [PackageModule.typeDefs.name] <+: record.source.segments := by
  rw [← ModulePath.package_eq_iff (by decide)]
  simp [isTypeDefs]

/-- A record is larger than its own fallback, however it is spelled. -/
theorem fallback_ne_absolute {record fallback : ImportRecord}
    (below : record.fallback = some fallback) (module : String) :
    fallback ≠ record.absolute module := by
  intro same
  have deeper := record.absolute_fallback module
  rw [← same, below] at deeper
  have smaller := congrArg sizeOf deeper
  cases fallback
  simp at smaller
  omega

end ImportRecord

namespace ImportSet

inductive Operation
  | insert (record : ImportRecord)
  | insertAll (records : List ImportRecord)
  | addVersionCheck
  | addRequired (record : ImportRecord) (module : String)
  | addChildType (record : ImportRecord) (module : String)

def apply (set : ImportSet) : Operation → ImportSet
  | .insert record => set.insert record
  | .insertAll records => set.insertAll records
  | .addVersionCheck => set.addVersionCheck
  | .addRequired record module => set.addRequired record module
  | .addChildType record module => set.addChildType record module

def run (history : List Operation) : ImportSet :=
  history.foldl apply {}

namespace Operation

/-- Nothing has to be imported: the record is of the interpreter's own names, or a field type
asks for one of the type definitions, which stand beside it. -/
def Skips : Operation → Prop
  | .addRequired record _ => [ModulePath.builtinsName] <+: record.source.segments
  | .addChildType record _ =>
      record.sibling = true ∧ [PackageModule.typeDefs.name] <+: record.source.segments ∨
        [ModulePath.builtinsName] <+: record.source.segments
  | _ => False

def Asks (operation : Operation) (record : ImportRecord) (module : String) : Prop :=
  operation = .addRequired record module ∨ operation = .addChildType record module

def requiredWrites (record : ImportRecord) (module : String) : List ImportRecord :=
  if record.needsVersionCheck then [versionCheck, record.absolute module]
  else [record.absolute module]

def writes : Operation → List ImportRecord
  | .insert record => [record]
  | .insertAll records => records
  | .addVersionCheck => [versionCheck]
  | .addRequired record module => if record.isBuiltins then [] else requiredWrites record module
  | .addChildType record module =>
      if record.isTypeDefs || record.isBuiltins then [] else requiredWrites record module

end Operation

variable {operation : Operation} {record : ImportRecord} {module : String}

theorem insertAll_append (set : ImportSet) (records others : List ImportRecord) :
    set.insertAll (records ++ others) = (set.insertAll records).insertAll others :=
  List.foldl_append

theorem addRequired_eq (set : ImportSet) (record : ImportRecord) (module : String) :
    set.addRequired record module =
      set.insertAll (if record.isBuiltins then [] else Operation.requiredWrites record module) := by
  unfold addRequired Operation.requiredWrites
  cases record.isBuiltins <;> cases record.needsVersionCheck <;> rfl

/-- An operation is its writes. -/
theorem apply_eq (set : ImportSet) (operation : Operation) :
    set.apply operation = set.insertAll operation.writes := by
  cases operation with
  | insert record => rfl
  | insertAll records => rfl
  | addVersionCheck => rfl
  | addRequired record module => exact set.addRequired_eq record module
  | addChildType record module =>
      change set.addChildType record module = _
      rw [addChildType, addRequired_eq, Operation.writes]
      cases record.isTypeDefs <;> rfl

theorem run_append (history more : List Operation) :
    run (history ++ more) = (run history).insertAll (more.flatMap Operation.writes) := by
  have replay : ∀ (set : ImportSet),
      more.foldl apply set = set.insertAll (more.flatMap Operation.writes) := by
    induction more with
    | nil => exact fun set => rfl
    | cons operation rest ih =>
        intro set
        rw [List.foldl_cons, ih, apply_eq, List.flatMap_cons, insertAll_append]
  rw [run, List.foldl_append]
  exact replay (run history)

theorem run_eq (history : List Operation) :
    run history = ofList (history.flatMap Operation.writes) :=
  run_append [] history

theorem mem_identities_run {history : List Operation} {identity : ModulePath × Option String} :
    identity ∈ (run history).records.map ImportRecord.identity ↔
      ∃ operation ∈ history, ∃ written ∈ operation.writes, written.identity = identity := by
  have byIdentity : ∀ a b : ImportRecord, a.order b = .eq ↔ a.identity = b.identity :=
    fun _ _ => ImportRecord.order_eq_iff_identity
  rw [run_eq, ofList, records_insertAll]
  refine (Sorted.mem_keys_ofList byIdentity).trans ?_
  simp only [List.mem_map, List.mem_flatMap]
  constructor
  · rintro ⟨written, ⟨operation, member, writes⟩, same⟩
    exact ⟨operation, member, written, writes, same⟩
  · rintro ⟨operation, member, written, writes, same⟩
    exact ⟨written, ⟨operation, member, writes⟩, same⟩

theorem Operation.Skips.writes_eq (skips : operation.Skips) : operation.writes = [] := by
  cases operation with
  | addRequired record module => simp [writes, ImportRecord.isBuiltins_iff.2 skips]
  | addChildType record module =>
      rcases skips with own | outside
      · simp [writes, ImportRecord.isTypeDefs_iff.2 own]
      · simp [writes, ImportRecord.isBuiltins_iff.2 outside]
  | insert record => exact skips.elim
  | insertAll records => exact skips.elim
  | addVersionCheck => exact skips.elim

theorem Operation.Asks.writes_eq (asks : operation.Asks record module)
    (taken : ¬ operation.Skips) (gated : record.fallback.isSome) :
    operation.writes = [versionCheck, record.absolute module] := by
  rcases asks with rfl | rfl
  · have outside : record.isBuiltins = false :=
      Bool.eq_false_iff.2 fun own => taken (ImportRecord.isBuiltins_iff.1 own)
    simp [writes, requiredWrites, outside, ImportRecord.needsVersionCheck, gated]
  · have other : record.isTypeDefs = false :=
      Bool.eq_false_iff.2 fun own => taken (Or.inl (ImportRecord.isTypeDefs_iff.1 own))
    have outside : record.isBuiltins = false :=
      Bool.eq_false_iff.2 fun own => taken (Or.inr (ImportRecord.isBuiltins_iff.1 own))
    simp [writes, requiredWrites, other, outside, ImportRecord.needsVersionCheck, gated]

/-- After any history the imports are in strictly increasing order, no two of one source and name.
A source and a name are there exactly when some operation wrote them, with the record that was
written last. Operations that skip their record change nothing. An operation that asks for a
record with a fallback brings the version check, which is there from then on, and beside it the
record as files outside the package spell it, never the fallback. -/
theorem run_exact (history : List Operation) :
    Sorted.Increasing ImportRecord.order (run history).records ∧
    ((run history).records.map ImportRecord.identity).Nodup ∧
    (∀ identity, identity ∈ (run history).records.map ImportRecord.identity ↔
      ∃ operation ∈ history, ∃ written ∈ operation.writes, written.identity = identity) ∧
    (∀ kept, kept ∈ (run history).records ↔
      ∃ before after, history.flatMap Operation.writes = before ++ kept :: after ∧
        ∀ later ∈ after, later.identity ≠ kept.identity) ∧
    (∀ operation : Operation, operation.Skips → run (history ++ [operation]) = run history) ∧
    ∀ (operation : Operation) (record : ImportRecord) (module : String) (fallback : ImportRecord),
      operation.Asks record module → ¬ operation.Skips → record.fallback = some fallback →
      (∀ later, versionCheck.identity ∈
        (run (history ++ operation :: later)).records.map ImportRecord.identity) ∧
      fallback ≠ record.absolute module ∧
      ∀ kept ∈ (run (history ++ [operation])).records,
        kept ∈ (run history).records ∨ kept = versionCheck ∨ kept = record.absolute module := by
  have increasing : Sorted.Increasing ImportRecord.order (run history).records := by
    rw [run_eq, ofList, records_insertAll]
    exact Sorted.increasing_ofList _
  refine ⟨increasing, ?_, fun identity => mem_identities_run, fun kept => ?_, ?_, ?_⟩
  · refine List.pairwise_map.2 (increasing.distinct.imp fun {a b} apart same => ?_)
    exact apart (ImportRecord.order_eq_iff_identity.2 same)
  · rw [run_eq, ofList, records_insertAll]
    refine Sorted.mem_ofList_iff_last.trans ?_
    simp only [Sorted.LastOf, ne_eq, ImportRecord.order_eq_iff_identity]
  · intro operation skips
    rw [run_append, List.flatMap_singleton, skips.writes_eq]
    rfl
  · intro operation record module fallback asks taken below
    have written := asks.writes_eq taken (Option.isSome_of_eq_some below)
    refine ⟨fun later => ?_, ImportRecord.fallback_ne_absolute below module, ?_⟩
    · refine mem_identities_run.2 ⟨operation, by simp, versionCheck, ?_, rfl⟩
      rw [written]
      exact List.mem_cons_self
    · intro kept present
      rw [run_append, List.flatMap_singleton, written, records_insertAll] at present
      rcases Sorted.mem_of_mem_insertAll present with new | earlier
      · exact Or.inr (by simpa using new)
      · exact Or.inl earlier

def gatedLiteral : ImportRecord :=
  (ImportRecord.named "typing" "Literal").gated ⟨3, 8⟩ (.named "typing_extensions" "Literal")

/-- The gate goes with a later plain import of the name, while the version check stays. -/
theorem gatedLiteral_replaced :
    let operation := Operation.addRequired gatedLiteral "stubs_s3"
    let plain := ImportRecord.named "typing" "Literal"
    ¬ operation.Skips ∧ gatedLiteral.fallback.isSome ∧
      plain ∈ (run [operation, .insert plain]).records ∧
      ∀ later, versionCheck.identity ∈
        (run (operation :: later)).records.map ImportRecord.identity := by
  intro operation plain
  have taken : ¬ operation.Skips := by
    change ¬ [ModulePath.builtinsName] <+: gatedLiteral.source.segments
    decide
  have asks : operation.Asks gatedLiteral "stubs_s3" := Or.inl rfl
  obtain ⟨_, _, _, kept, _⟩ := run_exact [operation, .insert plain]
  obtain ⟨_, _, _, _, _, brings⟩ := run_exact []
  refine ⟨taken, rfl, (kept plain).2 ⟨[versionCheck, gatedLiteral], [], rfl, by simp⟩, ?_⟩
  exact (brings operation _ _ _ asks taken rfl).1

end ImportSet

end ServiceStubs
