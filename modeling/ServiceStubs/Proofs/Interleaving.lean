import Mathlib.Logic.Relation
import ServiceStubs.Proofs.Generate
/-!
Services that take turns. What a service does is a program of single operations
on the storage; run without a break it is the generator's own run of the
service. In a pool of such programs any of them may do the next operation, which
is all that an order of the manifests or a number of threads can decide.
-/

namespace ServiceStubs

section
variable {σ : Type} [Storage σ]

def RenderedFile.store (file : RenderedFile) (storage : σ) : σ × Except Failure FileEvent :=
  match diskStep ("Failed to write " ++ file.path.text)
      (Storage.writeText storage file.path file.content) with
  | .error failure => (storage, .error failure)
  | .ok grown => (grown, .ok (.wrote file.path))

end

inductive Operation
  | read (path : FilePath)
  | compare (file : RenderedFile)
  | prepare (file : RenderedFile)
  | store (file : RenderedFile)
  | look (path : FilePath)
  | remove (path : FilePath)

namespace Operation

abbrev Answer : Operation → Type
  | read _ => Except DiskError String
  | compare _ => Bool
  | prepare _ => Except Failure Unit
  | store _ => Except Failure FileEvent
  | look _ => Bool
  | remove _ => Except Failure FileEvent

def perform {σ : Type} [Storage σ] (storage : σ) : (operation : Operation) → σ × operation.Answer
  | read path => (storage, Storage.readText storage path)
  | compare file => (storage, file.isChanged storage)
  | prepare file => file.prepare storage
  | store file => file.store storage
  | look path => (storage, Storage.isFile storage path)
  | remove path => removeStale path storage

end Operation

/-- Operations, each chosen by the answers to those before it. -/
inductive Program (α : Type) : Type
  | done (value : α)
  | call (operation : Operation) (next : operation.Answer → Program α)

namespace Program
variable {α β σ : Type} [Storage σ]

def bind : Program α → (α → Program β) → Program β
  | done value, more => more value
  | call operation next, more => call operation fun answer => (next answer).bind more

def run : Program α → σ → σ × α
  | done value, storage => (storage, value)
  | call operation next, storage =>
      let (reached, answer) := operation.perform storage
      (next answer).run reached

theorem run_bind (program : Program α) (more : α → Program β) (storage : σ) :
    (program.bind more).run storage =
      (more (program.run storage).2).run (program.run storage).1 := by
  induction program generalizing storage with
  | done value => rfl
  | call operation next ih => exact ih _ _

def select (ask : α → Program Bool) : List α → Program (List α)
  | [] => done []
  | item :: rest =>
      (ask item).bind fun chosen =>
        (select ask rest).bind fun others => done (if chosen then item :: others else others)

theorem run_select {ask : α → Program Bool} {test : α → Bool} {storage : σ}
    (asked : ∀ item, (ask item).run storage = (storage, test item)) (items : List α) :
    (select ask items).run storage = (storage, items.filter test) := by
  induction items with
  | nil => rfl
  | cons item rest ih =>
      rw [select, run_bind, asked, run_bind, ih, run, List.filter_cons]

def present (paths : List FilePath) : Program (List FilePath) :=
  select (fun path => call (.look path) done) paths

theorem run_present (paths : List FilePath) (storage : σ) :
    (present paths).run storage = (storage, paths.filter (Storage.isFile storage)) :=
  run_select (fun _ => rfl) paths

def changed (files : List RenderedFile) : Program (List RenderedFile) :=
  select (fun file => call (.compare file) done) files

theorem run_changed (files : List RenderedFile) (storage : σ) :
    (changed files).run storage = (storage, files.filter (·.isChanged storage)) :=
  run_select (fun _ => rfl) files

def forEach (step : α → Program (Except Failure FileEvent)) : List α → Program (Written Unit)
  | [] => done { storage := () }
  | item :: rest =>
      (step item).bind fun
        | .error failure => done { storage := (), failure? := some failure }
        | .ok event =>
            (forEach step rest).bind fun later => done { later with events := event :: later.events }

end Program

/-- What is left of a run when its storage is looked at apart. -/
def Written.apart {σ : Type} (written : Written σ) : σ × Written Unit :=
  (written.storage, { written with storage := () })

theorem Program.run_forEach {α σ : Type} [Storage σ] {step : α → Program (Except Failure FileEvent)}
    {done : α → σ → σ × Except Failure FileEvent}
    (stepped : ∀ item storage, (step item).run storage = done item storage) (items : List α)
    (storage : σ) :
    (forEach step items).run storage = (Written.forEach done items storage).apart := by
  induction items generalizing storage with
  | nil => rfl
  | cons item rest ih =>
      rw [forEach, run_bind, stepped, Written.forEach]
      cases outcome : done item storage with
      | mk reached result =>
          cases result with
          | error failure => rfl
          | ok event =>
              simp only [run_bind, ih]
              rfl

/-! ## The program of a service -/

namespace RenderedFile

def writing (file : RenderedFile) : Program (Except Failure FileEvent) :=
  .call (.compare file) fun
    | false => .done (.ok (.unchanged file.path))
    | true =>
        .call (.prepare file) fun
          | .error failure => .done (.error failure)
          | .ok () => .call (.store file) .done

theorem run_writing {σ : Type} [Storage σ] (file : RenderedFile) (storage : σ) :
    file.writing.run storage = file.write storage := by
  simp only [writing, write, Program.run, Operation.perform]
  cases file.isChanged storage with
  | false => rfl
  | true =>
      simp only [if_true, Program.run, Operation.perform]
      cases file.prepare storage with
      | mk prepared answer =>
          cases answer with
          | error failure => rfl
          | ok done => rfl

end RenderedFile

namespace Package

def writing (package : Package) (destination : Destination) (files : List RenderedFile) :
    Program (Written Unit) :=
  (Program.forEach RenderedFile.writing files).bind fun written =>
    match written.failure? with
    | some _ => .done written
    | none =>
        (Program.present (package.unplannedPaths destination)).bind fun stale =>
          (Program.forEach (fun path => .call (.remove path) .done) stale).bind fun swept =>
            .done { swept with events := written.events ++ swept.events }

theorem run_writing {σ : Type} [Storage σ] (package : Package) (destination : Destination)
    (files : List RenderedFile) (storage : σ) :
    (package.writing destination files).run storage =
      (package.sweep destination (Written.forEach RenderedFile.write files storage)).apart := by
  have wrote := Program.run_forEach RenderedFile.run_writing files storage
  rw [writing, Program.run_bind, wrote]
  generalize Written.forEach RenderedFile.write files storage = written
  cases stopped : written.failure? with
  | some failure => simp only [Written.apart, sweep, stopped, Program.run]
  | none =>
      simp only [Written.apart, sweep, stopped, Program.run_bind, Program.run_present]
      rw [Program.run_forEach (fun path storage => rfl)]
      rfl

end Package

namespace Producer

def putting (producer : Producer) (options : GenerateOptions) (package : Package) :
    Program (Except Failure (List FilePath) × List FileEvent) :=
  match producer.render package options.destination with
  | .error failure => .done (.error failure, [])
  | .ok files =>
      if options.dryRun then
        (Program.changed files).bind fun changed => .done (.ok (changed.map (·.path)), [])
      else
        (package.writing options.destination files).bind fun written =>
          .done (written.result, written.events)

def serving (producer : Producer) (reader : Manifest.Reader) (options : GenerateOptions)
    (path : FilePath) : Program ServiceOutcome :=
  .call (.read path) fun text =>
    match Manifest.ofFile reader path text with
    | .error failure => .done { manifest := path, result := .error failure }
    | .ok manifest =>
        let service := manifest.service.name
        let step := "Failed to generate service '" ++ service ++ "'"
        let assembly := manifest.buildEvents options.duplicatePolicy
        match manifest.build options.duplicatePolicy with
        | .error problem => .done
            { manifest := path, service? := some service,
              result := .error { context := [step], cause := .assembly problem },
              events := assembly }
        | .ok package =>
            (producer.putting options package).bind fun (result, files) => .done
              { manifest := path, service? := some service, result := inStep step result,
                events := assembly
                  ++ .definitionsReady service path package.typeDefs.length
                  :: files.map (FileEvent.toEvent service) }

variable {σ : Type} [Storage σ]

theorem run_putting (producer : Producer) (options : GenerateOptions) (package : Package)
    (storage : σ) :
    (producer.putting options package).run storage = producer.put options package storage := by
  unfold putting
  cases outcome : producer.render package options.destination with
  | error failure => rw [put_of_render_error outcome, Program.run]
  | ok files =>
      unfold put
      simp only
      split
      · rw [Program.run_bind, Program.run_changed, pendingChanges, outcome, Program.run]
      · rw [Program.run_bind, Package.run_writing, write, outcome]
        rfl

theorem run_serving (producer : Producer) (reader : Manifest.Reader) (options : GenerateOptions)
    (path : FilePath) (storage : σ) :
    (producer.serving reader options path).run storage =
      producer.generateService reader options path storage := by
  unfold serving generateService generateFrom Manifest.load
  simp only [Program.run, Operation.perform]
  cases Manifest.ofFile reader path (Storage.readText storage path) with
  | error failure => rfl
  | ok manifest =>
      simp only
      cases manifest.build options.duplicatePolicy with
      | error problem => rfl
      | ok package =>
          simp only [Program.run_bind, run_putting]
          rfl

end Producer

/-! ## Taking turns -/

namespace Program
variable {α σ : Type} [Storage σ] {pool : List (Program α)} {storage : σ}

inductive Turn : List (Program α) × σ → List (Program α) × σ → Prop
  | mk {pool : List (Program α)} {storage : σ} {index : Nat} {operation : Operation}
      {next : operation.Answer → Program α} (turn : pool[index]? = some (.call operation next)) :
      Turn (pool, storage)
        (pool.set index (next (operation.perform storage).2), (operation.perform storage).1)

abbrev Turns : List (Program α) × σ → List (Program α) × σ → Prop :=
  Relation.ReflTransGen Turn

def runAll : List (Program α) → σ → σ × List α
  | [], storage => (storage, [])
  | program :: rest, storage =>
      let (reached, value) := program.run storage
      let (last, values) := runAll rest reached
      (last, value :: values)

/-- A program may do all of its operations while the others wait. -/
theorem turns_run (program : Program α) (before after : List (Program α)) (storage : σ) :
    Turns (before ++ program :: after, storage)
      (before ++ .done (program.run storage).2 :: after, (program.run storage).1) := by
  induction program generalizing storage with
  | done value => exact .refl
  | call operation next ih =>
      have here : (before ++ .call operation next :: after)[before.length]? =
          some (.call operation next) := by
        simp
      have turn : Turn (_, storage) _ := .mk here
      rw [List.set_append_right _ _ (Nat.le_refl _), Nat.sub_self, List.set_cons_zero] at turn
      exact .head turn (ih _ _)

/-- Running all programs in order is one way to take turns. -/
theorem turns_runAll (pool : List (Program α)) (earlier : List α) (storage : σ) :
    Turns (earlier.map .done ++ pool, storage)
      ((earlier ++ (runAll pool storage).2).map .done, (runAll pool storage).1) := by
  -- The programs that are done stand before those that still have to run.
  induction pool generalizing earlier storage with
  | nil =>
      rw [runAll, List.append_nil, List.append_nil]
  | cons program rest ih =>
      have first := turns_run program (earlier.map .done) rest storage
      have later := ih (earlier ++ [(program.run storage).2]) (program.run storage).1
      rw [List.map_append, List.append_assoc] at later
      refine first.trans ?_
      rw [List.append_assoc] at later
      exact later

theorem exists_turns (pool : List (Program α)) (storage : σ) :
    ∃ (values : List α) (reached : σ), Turns (pool, storage) (values.map .done, reached) :=
  ⟨_, _, turns_runAll pool [] storage⟩

end Program

theorem Producer.runAll_serving {σ : Type} [Storage σ] (producer : Producer)
    (reader : Manifest.Reader) (options : GenerateOptions) (manifests : List FilePath)
    (storage : σ) :
    Program.runAll (manifests.map (producer.serving reader options)) storage =
      producer.generateAll reader options manifests storage := by
  induction manifests generalizing storage with
  | nil => rfl
  | cons manifest rest ih =>
      simp only [List.map_cons, Program.runAll, run_serving, generateAll, ih]

end ServiceStubs
