import ServiceStubs.Proofs.Footprint
/-!
Programs that stay within their footprints. When no footprint touches another
one, a turn of one program changes neither what the others are going to answer
nor where they leave their files, so all orders of the turns come to the same.
-/

namespace ServiceStubs

open Disk

variable {α β : Type} {footprint other : Footprint} {disk later : Disk} {effect : Effect}

namespace Operation.ActsAs
variable {operation : Operation} (acts : operation.ActsAs footprint disk effect)
include acts

theorem mono (laterTree : later.IsTree) (sees : Sees footprint disk later) :
    operation.ActsAs footprint later effect := by
  constructor
  · intro last lastTree lastSees
    rw [acts.answer last lastTree (sees.trans lastSees), acts.answer later laterTree sees]
  · exact fun last lastTree lastSees => acts.entries last lastTree (sees.trans lastSees)
  · exact fun last lastTree lastSees => acts.isTree last lastTree (sees.trans lastSees)
  · intro place change changed
    rcases acts.within place change changed with ⟨member, closed, filed⟩ | ⟨made, was, leads⟩
    · rw [← sees.same place (Footprint.mem_places_of_mem_files member)] at closed
      exact Or.inl ⟨member, closed, filed⟩
    · obtain ⟨file, member, part, apart⟩ := leads
      refine Or.inr ⟨made, ?_, file, member, part, apart⟩
      rcases sees.toward (Footprint.mem_places_of_mem_files member) part with same | ⟨-, folder⟩
      · rwa [same]
      · simp [folder]

/-- Nothing but folders comes where a folder was. -/
theorem grows (tree : disk.IsTree) : disk.Grows (operation.perform disk).1 := by
  intro place folder
  rw [acts.entries disk tree (.refl footprint disk)]
  cases changed : effect place with
  | none => exact folder
  | some change =>
      rcases acts.within place change changed with ⟨-, closed, -⟩ | ⟨rfl, -, -⟩
      · exact absurd folder closed
      · rfl

/-- The operation goes unnoticed by a service whose places it spares. -/
theorem unnoticed (tree : disk.IsTree) (spares : footprint.Spares other) :
    Sees other disk (operation.perform disk).1 := by
  have entries := acts.entries disk tree (.refl footprint disk)
  constructor
  · intro place member
    rw [entries]
    cases changed : effect place with
    | none => rfl
    | some change =>
        rcases acts.within place change changed with ⟨inside, -, -⟩ | ⟨-, -, file, inside, part, -⟩
        · exact absurd (List.prefix_refl place) (spares place inside place member).1
        · exact absurd part (spares file inside place member).2
  · intro place member lower part apart
    rw [entries]
    cases changed : effect lower with
    | none => exact Or.inl rfl
    | some change =>
        rcases acts.within lower change changed with ⟨inside, -, -⟩ | ⟨rfl, was, -⟩
        · exact absurd part (spares lower inside place member).1
        · rcases List.mem_pair.1 was with missing | folder
          · exact Or.inr ⟨missing, rfl⟩
          · exact Or.inl folder.symm
  · exact acts.grows tree

/-- After the operation the service still sees the same on both disks. -/
theorem sees_after (tree : disk.IsTree) (laterTree : later.IsTree)
    (sees : Sees footprint disk later) :
    Sees footprint (operation.perform disk).1 (operation.perform later).1 := by
  have entries := acts.entries disk tree (.refl footprint disk)
  have entries' := acts.entries later laterTree sees
  constructor
  · intro place member
    rw [entries, entries', sees.same place member]
  · intro place member lower part apart
    rw [entries, entries']
    cases effect lower with
    | none => exact sees.above place member lower part apart
    | some change => exact Or.inl rfl
  · intro place folder
    rw [entries] at folder
    rw [entries']
    cases changed : effect place with
    | none =>
        rw [changed] at folder
        exact sees.grows place folder
    | some change =>
        rw [changed] at folder
        exact folder

end Operation.ActsAs

namespace Program

/-- Every operation of the program keeps to the footprint, and together they have the effect. -/
def ActsAs (footprint : Footprint) : Program α → Disk → Effect → Prop
  | done _, _, effect => effect = .none
  | call operation next, disk, effect => ∃ first rest,
      operation.ActsAs footprint disk first ∧
      (next (operation.perform disk).2).ActsAs footprint (operation.perform disk).1 rest ∧
      effect = rest.after first

variable {program : Program α}

theorem ActsAs.run (acts : program.ActsAs footprint disk effect) (tree : disk.IsTree) :
    IsTree (program.run disk).1 ∧ disk.Grows (program.run disk).1 ∧
    ∀ place, entry? (program.run disk).1 place = (effect place).getD ( disk.entry? place) := by
  induction program generalizing disk effect with
  | done value =>
      cases acts
      exact ⟨tree, fun _ folder => folder, fun _ => rfl⟩
  | call operation next ih =>
      obtain ⟨first, rest, now, then', rfl⟩ := acts
      have refl := Sees.refl footprint disk
      obtain ⟨last, grows, entries⟩ := ih _ then' (now.isTree disk tree refl)
      refine ⟨last, fun place folder => grows place (now.grows tree place folder), fun place => ?_⟩
      have both := entries place
      rw [now.entries disk tree refl] at both
      rw [Program.run, both, Effect.after]
      cases rest place <;> rfl

theorem ActsAs.within (acts : program.ActsAs footprint disk effect) {place : Place}
    {change : Option DiskEntry} (changed : effect place = some change) :
    place ∈ footprint.files ∨ change = some .folder ∧
      ∃ file ∈ footprint.files, place <+: file ∧ place ≠ file := by
  induction program generalizing disk effect with
  | done value =>
      cases acts
      cases changed
  | call operation next ih =>
      obtain ⟨first, rest, now, then', rfl⟩ := acts
      rcases Option.or_eq_some_iff.1 changed with changed | ⟨-, changed⟩
      · exact ih _ then' changed
      · rcases now.within place change changed with ⟨inside, -, -⟩ | ⟨made, -, leads⟩
        · exact Or.inl inside
        · exact Or.inr ⟨made, leads⟩

/-- A program goes on alike on every disk that looks alike to its service. -/
theorem ActsAs.mono (acts : program.ActsAs footprint disk effect) (tree : disk.IsTree)
    (laterTree : later.IsTree) (sees : Sees footprint disk later) :
    program.ActsAs footprint later effect ∧ (program.run later).2 = (program.run disk).2 := by
  induction program generalizing disk later effect with
  | done value => exact ⟨acts, rfl⟩
  | call operation next ih =>
      obtain ⟨first, rest, now, then', rfl⟩ := acts
      have answer := now.answer later laterTree sees
      obtain ⟨onwards, value⟩ := ih _ then' (now.isTree disk tree (.refl footprint disk))
        (now.isTree later laterTree sees) (now.sees_after tree laterTree sees)
      constructor
      · refine ⟨first, rest, now.mono laterTree sees, ?_, rfl⟩
        rw [answer]
        exact onwards
      · simp only [Program.run, answer]
        exact value

/-! ## Pools -/

structure Poised (footprint : Nat → Footprint) (pool : List (Program α)) (disk : Disk)
    (effect : Nat → Effect) : Prop where
  tree : disk.IsTree
  acts : ∀ (index : Nat) (program : Program α), pool[index]? = some program →
    program.ActsAs (footprint index) disk (effect index)
  idle : ∀ index, pool[index]? = none → effect index = .none

def Leaves (effect : Nat → Effect) (disk : Disk) (place : Place) (entry : Option DiskEntry) : Prop :=
  (∃ index, effect index place = some entry) ∨
    (∀ index, effect index place = none) ∧ entry = disk.entry? place

def returns (pool : List (Program α)) (disk : Disk) : List α :=
  pool.map fun program => (program.run disk).2

variable {footprints : Nat → Footprint} {pool : List (Program α)} {effects : Nat → Effect}
  {state : List (Program α) × Disk}

/-- What is left after a turn was going to be left before it. -/
theorem Leaves.before {index : Nat} {first rest : Effect} {reached : Disk} {place : Place}
    {entry : Option DiskEntry} (both : effects index = rest.after first)
    (entries : reached.entry? place = (first place).getD ( disk.entry? place))
    (leaves : Leaves (Function.update effects index rest) reached place entry) :
    Leaves effects disk place entry := by
  rcases leaves with ⟨other, changed⟩ | ⟨unchanged, rfl⟩
  · refine Or.inl ⟨other, ?_⟩
    by_cases same : other = index
    · subst same
      rw [Function.update_self] at changed
      rw [both, Effect.after, changed, Option.some_or]
    · rwa [Function.update_of_ne same] at changed
  · have here := unchanged index
    rw [Function.update_self] at here
    have effect : effects index place = first place := by
      rw [both, Effect.after, here, Option.none_or]
    rw [entries]
    cases changed : first place with
    | some change => exact Or.inl ⟨index, effect.trans changed⟩
    | none =>
        refine Or.inr ⟨fun other => ?_, rfl⟩
        by_cases same : other = index
        · rw [same, effect, changed]
        · have elsewhere := unchanged other
          rwa [Function.update_of_ne same] at elsewhere

theorem getElem?_set_other {index other : Nat} (program : Program α) (apart : index ≠ other) :
    (pool.set index program)[other]? = pool[other]? := by
  rw [List.getElem?_set, if_neg apart]

theorem getElem?_set_here {index : Nat} {was : Program α} (here : pool[index]? = some was)
    (program : Program α) : (pool.set index program)[index]? = some program := by
  obtain ⟨inside, -⟩ := List.getElem?_eq_some_iff.1 here
  rw [List.getElem?_set, if_pos rfl, if_pos inside]

section
variable {index : Nat} {was next : Program α} {reached : Disk} (here : pool[index]? = some was)
include here

theorem Poised.set {rest : Effect} (poised : Poised footprints pool disk effects)
    (tree : reached.IsTree) (acts : next.ActsAs (footprints index) reached rest)
    (others : ∀ (other : Nat) (program : Program α), index ≠ other → pool[other]? = some program →
      program.ActsAs (footprints other) reached (effects other)) :
    Poised footprints (pool.set index next) reached (Function.update effects index rest) := by
  constructor
  · exact tree
  · intro other program found
    by_cases same : index = other
    · subst same
      rw [getElem?_set_here here] at found
      cases found
      rw [Function.update_self]
      exact acts
    · rw [getElem?_set_other _ same] at found
      rw [Function.update_of_ne (Ne.symm same)]
      exact others other program same found
  · intro other ended
    have apart : index ≠ other := by
      rintro rfl
      rw [getElem?_set_here here] at ended
      cases ended
    rw [getElem?_set_other _ apart] at ended
    rw [Function.update_of_ne (Ne.symm apart)]
    exact poised.idle other ended

theorem returns_set (value : (next.run reached).2 = (was.run disk).2)
    (others : ∀ (other : Nat) (program : Program α), index ≠ other → pool[other]? = some program →
      (program.run reached).2 = (program.run disk).2) :
    returns (pool.set index next) reached = returns pool disk := by
  apply List.ext_getElem?
  intro other
  rw [returns, returns, List.getElem?_map, List.getElem?_map]
  by_cases same : index = other
  · subst same
    rw [getElem?_set_here here, here, Option.map_some, Option.map_some, value]
  · rw [getElem?_set_other _ same]
    cases found : pool[other]? with
    | none => rfl
    | some program => rw [Option.map_some, Option.map_some, others other program same found]

end

/-- A turn changes nothing about what is going to come out. -/
theorem Poised.turn (poised : Poised footprints pool disk effects)
    (spares : ∀ i j, i ≠ j → (footprints i).Spares (footprints j))
    (turn : Turn (pool, disk) state) :
    ∃ rest, Poised footprints state.1 state.2 rest ∧
      returns state.1 state.2 = returns pool disk ∧
      ∀ place entry, Leaves rest state.2 place entry → Leaves effects disk place entry := by
  cases turn with
  | @mk _ _ index operation next here =>
      obtain ⟨first, later, now, then', both⟩ := poised.acts index _ here
      have tree := poised.tree
      have reached := now.isTree disk tree (.refl _ disk)
      -- The other programs go on as they would have done before the turn.
      have others : ∀ (other : Nat) (program : Program α), index ≠ other →
          pool[other]? = some program →
          program.ActsAs (footprints other) (operation.perform disk).1 (effects other) ∧
          (program.run (operation.perform disk).1).2 = (program.run disk).2 := by
        intro other program apart found
        exact (poised.acts other program found).mono tree reached
          (now.unnoticed tree (spares index other apart))
      refine ⟨Function.update effects index later, ?_, ?_, ?_⟩
      · apply poised.set here reached then'
        exact fun other program apart found => (others other program apart found).1
      · apply returns_set here
        · rw [Program.run]
        · exact fun other program apart found => (others other program apart found).2
      · intro place entry leaves
        exact leaves.before both (now.entries disk tree (.refl _ disk) place)

theorem Poised.turns (poised : Poised footprints pool disk effects)
    (spares : ∀ i j, i ≠ j → (footprints i).Spares (footprints j))
    (turns : Turns (pool, disk) state) :
    ∃ rest, Poised footprints state.1 state.2 rest ∧
      returns state.1 state.2 = returns pool disk ∧
      ∀ place entry, Leaves rest state.2 place entry → Leaves effects disk place entry := by
  induction turns with
  | refl => exact ⟨effects, poised, rfl, fun _ _ leaves => leaves⟩
  | tail _ turn ih =>
      obtain ⟨rest, poised, returned, left⟩ := ih
      obtain ⟨last, poised, returned', left'⟩ := poised.turn spares turn
      exact ⟨last, poised, returned'.trans returned, fun place entry leaves =>
        left place entry (left' place entry leaves)⟩

theorem Poised.within (poised : Poised footprints pool disk effects) {index : Nat} {place : Place}
    {change : Option DiskEntry} (changed : effects index place = some change) :
    place ∈ (footprints index).files ∨ change = some .folder ∧
      ∃ file ∈ (footprints index).files, place <+: file ∧ place ≠ file := by
  cases found : pool[index]? with
  | none =>
      rw [poised.idle index found] at changed
      cases changed
  | some program => exact (poised.acts index program found).within changed

section
variable (poised : Poised footprints pool disk effects)
  (spares : ∀ i j, i ≠ j → (footprints i).Spares (footprints j))
include poised spares

/-- No program changes a file of another one. -/
theorem Poised.unchanged {index other : Nat} {place : Place} (apart : other ≠ index)
    (inside : place ∈ (footprints index).files) : effects other place = none := by
  cases changed : effects other place with
  | none => rfl
  | some change =>
      rcases poised.within changed with inside' | ⟨-, file, member, part, -⟩
      · exact absurd (List.prefix_refl place) (spares other index apart place inside' place
          (Footprint.mem_places_of_mem_files inside)).1
      · exact absurd part (spares other index apart file member place
          (Footprint.mem_places_of_mem_files inside)).2

/-- Two programs change the same place only to a folder. -/
theorem Poised.leaves_unique {place : Place} {entry entry' : Option DiskEntry}
    (leaves : Leaves effects disk place entry) (leaves' : Leaves effects disk place entry') :
    entry = entry' := by
  rcases leaves with ⟨index, changed⟩ | ⟨unchanged, rfl⟩
  · rcases leaves' with ⟨index', changed'⟩ | ⟨unchanged', rfl⟩
    · by_cases same : index = index'
      · subst same
        rw [changed] at changed'
        exact Option.some.inj changed'
      · rcases poised.within changed with inside | ⟨folder, -⟩
        · rw [poised.unchanged spares (Ne.symm same) inside] at changed'
          cases changed'
        · rcases poised.within changed' with inside' | ⟨folder', -⟩
          · rw [poised.unchanged spares same inside'] at changed
            cases changed
          · rw [folder, folder']
    · rw [unchanged' index] at changed
      cases changed
  · rcases leaves' with ⟨index', changed'⟩ | ⟨unchanged', rfl⟩
    · rw [unchanged index'] at changed'
      cases changed'
    · rfl

/-- At its own files a program leaves what it leaves alone. -/
theorem Poised.leaves_own {index : Nat} {program : Program α} (here : pool[index]? = some program)
    {place : Place} (inside : place ∈ (footprints index).files) :
    Leaves effects disk place ( entry? (program.run disk).1 place) := by
  obtain ⟨-, -, entries⟩ := (poised.acts index program here).run poised.tree
  rw [entries]
  cases changed : effects index place with
  | some change => exact Or.inl ⟨index, changed⟩
  | none =>
      refine Or.inr ⟨fun other => ?_, rfl⟩
      by_cases same : other = index
      · rw [same, changed]
      · exact poised.unchanged spares same inside

omit spares in
/-- What a program changes alone it is going to leave so. -/
theorem Poised.leaves_changed {index : Nat} {program : Program α}
    (here : pool[index]? = some program) {place : Place}
    (differs : entry? (program.run disk).1 place ≠ disk.entry? place) :
    Leaves effects disk place ( entry? (program.run disk).1 place) := by
  obtain ⟨-, -, entries⟩ := (poised.acts index program here).run poised.tree
  rw [entries] at differs ⊢
  cases changed : effects index place with
  | some change => exact Or.inl ⟨index, changed⟩
  | none =>
      rw [changed] at differs
      exact absurd rfl differs

omit spares in
theorem Poised.leaves_unchanged {place : Place}
    (same : ∀ program ∈ pool, entry? (program.run disk).1 place = disk.entry? place) :
    Leaves effects disk place ( disk.entry? place) := by
  by_cases touched : ∃ index change, effects index place = some change
  · obtain ⟨index, change, changed⟩ := touched
    cases here : pool[index]? with
    | none =>
        rw [poised.idle index here] at changed
        cases changed
    | some program =>
        obtain ⟨-, -, entries⟩ := (poised.acts index program here).run poised.tree
        have still := same program (List.mem_of_getElem? here)
        rw [entries, changed] at still
        exact Or.inl ⟨index, still ▸ changed⟩
  · refine Or.inr ⟨fun index => ?_, rfl⟩
    cases changed : effects index place with
    | none => rfl
    | some change => exact absurd ⟨index, change, changed⟩ touched

/-- Whatever the order of the turns, the programs return what each of them returns alone, and leave
what was going to be left from the beginning. -/
theorem Poised.finished {values : List α} {reached : Disk}
    (turns : Turns (pool, disk) (values.map .done, reached)) :
    values = returns pool disk ∧ ∀ place, Leaves effects disk place ( reached.entry? place) := by
  obtain ⟨rest, last, returned, left⟩ := poised.turns spares turns
  constructor
  · rw [← returned, returns, List.map_map]
    exact (List.map_id values).symm
  · intro place
    apply left place
    -- Programs that are done have no effect left.
    refine Or.inr ⟨fun index => ?_, rfl⟩
    cases found : (values.map Program.done)[index]? with
    | none => rw [last.idle index found, Effect.none]
    | some program =>
        have acts := last.acts index program found
        rw [List.getElem?_map] at found
        obtain ⟨value, -, rfl⟩ := Option.map_eq_some_iff.1 found
        rw [acts, Effect.none]

end

end Program

end ServiceStubs
