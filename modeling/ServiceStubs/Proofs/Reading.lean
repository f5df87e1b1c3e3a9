import Mathlib.Data.List.Forall2
import ServiceStubs.Codec
import ServiceStubs.Document
import ServiceStubs.Proofs.Sorted
/-!
Which nodes a value is read from. A record stands in a document as a table that
may leave out fields with a default, or as the list of its first fields in the
order declared. Given what stands for each field, the reader gives the record
back from either form.
-/

namespace ServiceStubs

variable {α β : Type}

/-- The value is read from every node that stands for it, whatever the notation and without a limit
to the levels. -/
def Decoder.Reads (decode : Decoder α) (Stands : α → Node → Prop) : Prop :=
  ∀ value node, Stands value node → ∀ format, decode { format } node = .ok value

structure Decoder.RoundTrips (decode : Decoder α) (encode : α → Node) (Stands : α → Node → Prop) :
    Prop where
  encoded : ∀ value format, decode { format } (encode value) = .ok value
  standing : ∀ value node, Stands value node → ∀ format, decode { format } node = .ok value

theorem Decoder.roundTrips {decode : Decoder α} {encode : α → Node} {Stands : α → Node → Prop}
    (reads : Reads decode Stands) (stands : ∀ value, Stands value (encode value)) :
    RoundTrips decode encode Stands where
  encoded value format := reads value (encode value) (stands value) format
  standing := reads

namespace Node

def IsText (value : String) (node : Node) : Prop :=
  node = .text value

theorem isText_text (value : String) : IsText value (.text value) := rfl

theorem present_of_isText {value : String} {scalar : Scalar}
    (stands : IsText value (.scalar scalar)) : Decoder.isAbsent scalar = false := by
  cases stands
  rfl

def IsTruth (value : Bool) (node : Node) : Prop :=
  node = .truth value

def IsList (Stands : α → Node → Prop) (values : List α) (node : Node) : Prop :=
  ∃ nodes, List.Forall₂ Stands values nodes ∧ node = .list nodes true

def IsOption (Stands : α → Node → Prop) : Option α → Node → Prop
  | none, node => node = .scalar .null
  | some value, node => Stands value node

theorem isList_of_map {Stands : α → Node → Prop} {write : α → Node}
    (stands : ∀ value, Stands value (write value)) (values : List α) :
    IsList Stands values (.ofList write values) := by
  refine ⟨values.map write, ?_, rfl⟩
  induction values with
  | nil => exact .nil
  | cons value rest ih => exact .cons (stands value) ih

theorem isOption_of_map {Stands : α → Node → Prop} {write : α → Node}
    (stands : ∀ value, Stands value (write value)) :
    ∀ given, IsOption Stands given (.ofOption write given)
  | none => rfl
  | some value => stands value

end Node

namespace Decoder

theorem reads_text : Reads Decoder.text Node.IsText := by
  rintro value _ rfl format
  rfl

theorem reads_truth : Reads Decoder.truth Node.IsTruth := by
  rintro value _ rfl format
  rfl

theorem reads_list {decode : Decoder α} {Stands : α → Node → Prop} (reads : Reads decode Stands) :
    Reads (Decoder.list decode) (Node.IsList Stands) := by
  rintro values _ ⟨nodes, stand, rfl⟩ format
  have every : all (decode { format }) nodes = .ok values := by
    induction stand with
    | nil => rfl
    | cons stands _ ih => simp only [all, reads _ _ stands format, ih]
  simp only [list, Rules.enter, every, ifWhole, if_true]

/-- A value may be absent where nothing that stands for one reads as its absence. -/
theorem reads_optional {decode : Decoder α} {Stands : α → Node → Prop} (reads : Reads decode Stands)
    (present : ∀ value scalar, Stands value (.scalar scalar) → isAbsent scalar = false) :
    Reads (Decoder.optional decode) (Node.IsOption Stands) := by
  intro given node stands format
  cases given with
  | none =>
      cases stands
      rfl
  | some value =>
      have read := reads value node stands format
      cases node with
      | scalar content => simp [optional, present value content stands, read]
      | list items whole => simp only [optional, read]
      | table entries whole => simp only [optional, read]
      | broken => simp only [optional, read]

end Decoder

structure Column (α : Type) where
  slot : Slot α
  -- The second record with this field of the first one.
  copy : α → α → α
  Stands : α → Node → Prop

namespace Column

def make (required : Bool) (name : String) (decode : Decoder β) (get : α → β) (put : β → α → α)
    (Stands : β → Node → Prop) : Column α :=
  { slot := Slot.make required name decode put
    copy := fun given record => put (get given) record
    Stands := fun record node => Stands (get record) node }

def needed (name : String) (decode : Decoder β) (get : α → β) (put : β → α → α)
    (Stands : β → Node → Prop) : Column α :=
  make true name decode get put Stands

def defaulted (name : String) (decode : Decoder β) (get : α → β) (put : β → α → α)
    (Stands : β → Node → Prop) : Column α :=
  make false name decode get put Stands

@[simp] theorem required_needed (name : String) (decode : Decoder β) (get : α → β)
    (put : β → α → α) (Stands : β → Node → Prop) :
    (needed name decode get put Stands).slot.required = true := rfl

@[simp] theorem required_defaulted (name : String) (decode : Decoder β) (get : α → β)
    (put : β → α → α) (Stands : β → Node → Prop) :
    (defaulted name decode get put Stands).slot.required = false := rfl

abbrev name (column : Column α) : String :=
  column.slot.name

def fill (value : α) (columns : List (Column α)) (base : α) : α :=
  columns.foldl (fun record column => column.copy value record) base

/-- The node stands for a record. The columns that are not given have a default, and the value has
the default there. -/
inductive Record (columns : List (Column α)) (blank value : α) : Node → Prop
  | table (given : List (Column α)) (nodes : List Node) (known : given ⊆ columns)
      (once : (given.map name).Nodup)
      (enough : ∀ column ∈ columns, column.slot.required = true → column ∈ given)
      (stand : List.Forall₂ (fun column => column.Stands value) given nodes)
      (whole : fill value given blank = value) :
      Record columns blank value (.ofFields ((given.map name).zip nodes))
  | row (given omitted : List (Column α)) (nodes : List Node) (split : columns = given ++ omitted)
      (optional : ∀ column ∈ omitted, column.slot.required = false)
      (stand : List.Forall₂ (fun column => column.Stands value) given nodes)
      (whole : fill value given blank = value) :
      Record columns blank value (.list nodes true)

def Reads (column : Column α) : Prop :=
  ∀ value node, column.Stands value node → ∀ format record,
    column.slot.read { format } node record = .ok (column.copy value record)

theorem reads_make {decode : Decoder β} {Stands : β → Node → Prop} {required : Bool} {name : String}
    {get : α → β} {put : β → α → α} (reads : Decoder.Reads decode Stands) :
    (make required name decode get put Stands).Reads := by
  intro value node stands format record
  simp only [make, Slot.make, reads (get value) node stands format]

variable {columns given omitted : List (Column α)} {nodes : List Node} {blank value : α}

theorem items_of_omitted (optional : ∀ column ∈ omitted, column.slot.required = false)
    (rules : Rules) (record : α) :
    Decoder.items rules true (omitted.map (·.slot)) [] record = .ok record := by
  induction omitted with
  | nil => rfl
  | cons column rest ih =>
      have first := optional column List.mem_cons_self
      have later := ih fun other member => optional other (List.mem_cons_of_mem column member)
      simp only [List.map_cons, Decoder.items, first, Bool.false_eq_true, if_false, later]

theorem items_of_given (reads : ∀ column ∈ given, column.Reads)
    (optional : ∀ column ∈ omitted, column.slot.required = false)
    (stand : List.Forall₂ (fun column => column.Stands value) given nodes)
    (format : DocumentFormat) (record : α) :
    Decoder.items { format } true ((given ++ omitted).map (·.slot)) nodes record =
      .ok (fill value given record) := by
  induction stand generalizing record with
  | nil => exact items_of_omitted optional _ record
  | @cons column node rest others stands _ ih =>
      have read := reads column List.mem_cons_self value node stands format record
      have later := ih (fun other member => reads other (List.mem_cons_of_mem column member))
        (column.copy value record)
      simp only [List.cons_append, List.map_cons, Decoder.items, read, later]
      rfl

theorem find?_slot (distinct : (columns.map name).Nodup) {column : Column α}
    (member : column ∈ columns) :
    (columns.map (·.slot)).find? (·.name == column.name) = some column.slot := by
  have distinctSlots : ((columns.map (·.slot)).map Slot.name).Nodup := by
    rwa [List.map_map]
  exact Sorted.find?_key_of_mem distinctSlots (List.mem_map_of_mem member)

/-- The entries are read one after the other; the names seen are kept last first. -/
theorem entries_of_given (distinct : (columns.map name).Nodup)
    (reads : ∀ column ∈ columns, column.Reads) (listed : given ⊆ columns)
    (once : (given.map name).Nodup)
    (stand : List.Forall₂ (fun column => column.Stands value) given nodes)
    (format : DocumentFormat) (seen : List String)
    (fresh : ∀ column ∈ given, column.name ∉ seen) (record : α) :
    Decoder.entries (columns.map (·.slot)) { format }
      (((given.map name).zip nodes).map fun (name, node) => (some name, node)) seen record =
      .ok ((given.map name).reverse ++ seen, fill value given record) := by
  induction stand generalizing seen record with
  | nil => rfl
  | @cons column node rest others stands _ ih =>
      obtain ⟨apart, onceRest⟩ := List.nodup_cons.1 once
      have member : column ∈ columns := listed List.mem_cons_self
      have known := find?_slot distinct member
      have unseen : seen.contains column.name = false := by
        simpa using fresh column List.mem_cons_self
      have read := reads column member value node stands format record
      have freshRest : ∀ other ∈ rest, other.name ∉ column.name :: seen := by
        intro other deeper again
        rcases List.mem_cons.1 again with same | earlier
        · exact apart (List.mem_map.2 ⟨other, deeper, same⟩)
        · exact fresh other (List.mem_cons_of_mem column deeper) earlier
      have later := ih (fun _ deeper => listed (List.mem_cons_of_mem column deeper)) onceRest
        (column.name :: seen) freshRest (column.copy value record)
      simp only [List.map_cons, List.zip_cons_cons, Decoder.entries, known, unseen,
        Bool.false_eq_true, if_false, read, later]
      simp [fill]

theorem complete_of_given
    (enough : ∀ column ∈ columns, column.slot.required = true → column ∈ given) (record : α) :
    Decoder.complete (columns.map (·.slot)) ((given.map name).reverse ++ []) record =
      .ok record := by
  have nothing : (columns.map (·.slot)).find? (fun slot => slot.required &&
      !((given.map name).reverse ++ []).contains slot.name) = none := by
    apply List.find?_eq_none.2
    intro slot member lacking
    obtain ⟨column, listed, rfl⟩ := List.mem_map.1 member
    rw [Bool.and_eq_true, Bool.not_eq_true', List.append_nil, List.contains_reverse] at lacking
    have seen : column.name ∈ given.map name :=
      List.mem_map_of_mem (enough column listed lacking.1)
    rw [List.contains_iff_mem.2 seen] at lacking
    exact Bool.false_ne_true lacking.2.symm
  simp only [Decoder.complete, nothing]

/-- A record whose fields can be read can be read, from a table and from a list. -/
theorem reads_record (distinct : (columns.map name).Nodup)
    (reads : ∀ column ∈ columns, column.Reads) :
    Decoder.Reads (Decoder.record (columns.map (·.slot)) blank) (Record columns blank) := by
  intro value node stands format
  cases stands with
  | table given nodes known once enough stand whole =>
      have read := entries_of_given distinct reads known once stand format [] (by simp) blank
      simp only [Decoder.record, Node.ofFields, Rules.enter, read, if_true,
        complete_of_given enough, whole]
  | row given omitted nodes split optional stand whole =>
      subst split
      have readsGiven : ∀ column ∈ given, column.Reads := fun column member =>
        reads column (List.mem_append_left omitted member)
      have read := items_of_given readsGiven optional stand format blank
      simp only [Decoder.record, Rules.enter, read, whole]

/-- A table may give every column. -/
theorem record_of_all (distinct : (columns.map name).Nodup)
    (stand : List.Forall₂ (fun column => column.Stands value) columns nodes)
    (whole : fill value columns blank = value) :
    Record columns blank value (.ofFields ((columns.map name).zip nodes)) :=
  .table columns nodes (List.Subset.refl _) distinct (fun _ member _ => member) stand whole

/-- A record is a table or a list, never a scalar. -/
theorem Record.ne_scalar {node : Node} (stands : Record columns blank value node) (scalar : Scalar) :
    node ≠ .scalar scalar := by
  cases stands with
  | table => nofun
  | row => nofun

end Column

end ServiceStubs

/-!
What stands for a type in a document. The types nest, and at every level what
is a record may be a table or a list; each is read back from all of these.
-/

namespace ServiceStubs

namespace Version

theorem ofScalar?_byte :
    ∀ value < 256, Natural.ofScalar? (.number (toString value)) = some value := by
  decide +kernel

theorem natural_byte (value : UInt8) (rules : Rules) :
    Decoder.natural 256 rules (.natural value.toNat) = .ok value.toNat := by
  have below := value.toNat_lt
  simp only [Decoder.natural, Node.natural, ofScalar?_byte value.toNat below]
  rw [if_pos below]

theorem reads : Decoder.Reads decode fun version node => node = version.encode := by
  rintro version _ rfl format
  simp [decode, encode, Decoder.pair, Rules.enter, natural_byte, Decoder.ifWhole]

end Version

namespace ExternalType

def columns : List (Column ExternalType) :=
  [.needed "module" .text (·.module) (fun value type => { type with module := value })
     Node.IsText,
   .needed "name" .text (·.name) (fun value type => { type with name := value }) Node.IsText,
   .defaulted "min_version" (.optional Version.decode) (·.minVersion)
     (fun value type => { type with minVersion := value })
     (Node.IsOption fun version node => node = version.encode),
   .defaulted "fallback_module" (.optional .text) (·.fallbackModule)
     (fun value type => { type with fallbackModule := value }) (Node.IsOption Node.IsText)]

def Stands : ExternalType → Node → Prop :=
  Column.Record columns { module := "", name := "" }

theorem reads : Decoder.Reads decode Stands := by
  apply Column.reads_record
  · decide
  · simp only [columns, List.forall_mem_cons]
    refine ⟨Column.reads_make Decoder.reads_text,
      Column.reads_make Decoder.reads_text,
      Column.reads_make (Decoder.reads_optional Version.reads ?_),
      Column.reads_make (Decoder.reads_optional Decoder.reads_text fun _ _ =>
        Node.present_of_isText), nofun⟩
    intro version scalar stands
    cases stands

theorem stands_encode (type : ExternalType) : type.Stands type.encode := by
  obtain ⟨module, name, minVersion, fallbackModule⟩ := type
  -- The table has the columns that are not absent.
  cases minVersion with
  | none =>
      cases fallbackModule with
      | none =>
          exact .table (columns.take 2) [_, _] (List.take_subset _ _) (by decide)
            (by simp [columns]) (.cons rfl (.cons rfl .nil)) rfl
      | some fallback =>
          exact .table (columns.eraseIdx 2) [_, _, _] (List.eraseIdx_subset) (by decide)
            (by simp [columns]) (.cons rfl (.cons rfl (.cons rfl .nil))) rfl
  | some version =>
      cases fallbackModule with
      | none =>
          exact .table (columns.take 3) [_, _, _] (List.take_subset _ _) (by decide)
            (by simp [columns]) (.cons rfl (.cons rfl (.cons rfl .nil))) rfl
      | some fallback =>
          exact Column.record_of_all (by decide)
            (.cons rfl (.cons rfl (.cons rfl (.cons rfl .nil)))) rfl

end ExternalType

namespace TypeExpr

mutual

/-- What stands for a type. The arguments of a container may be left out of its list when there
are none. -/
def Stands : TypeExpr → Node → Prop
  | builtin name, node => node = .ofFields [("builtin", .text name)]
  | external type, node => ∃ content, type.Stands content ∧ node = .ofFields [("external", content)]
  | ref name, node => node = .ofFields [("ref", .text name)]
  | selfRef, node => node = .text "self_ref"
  | container outer args, node => ∃ first items content,
      outer.Stands first ∧ StandAll args items ∧
      (content = .ofFields [("outer", first), ("args", .list items true)] ∨
        content = .list [first, .list items true] true ∨
        args = [] ∧ content = .list [first] true) ∧
      node = .ofFields [("container", content)]
  | literal values, node => node = .ofFields [("literal", .ofList .text values)]

def StandAll : List TypeExpr → List Node → Prop
  | [], nodes => nodes = []
  | type :: rest, nodes => ∃ node others, type.Stands node ∧ StandAll rest others ∧
      nodes = node :: others

end

/-- A table with one key holds a type of the kind that the key names. -/
theorem decode_single (format : DocumentFormat) (kind : String) (content : Node) :
    decode { format } (.ofFields [(kind, content)]) =
      if kind == "container" then decodeContainer { format } content
      else decodeSimple { format } kind content := by
  have inner : Rules.enterVariant { format } = .ok { format } := by
    cases format <;> rfl
  simp only [Node.ofFields, List.map_cons, List.map_nil, decode, inner, decodeKind]
  split
  · rename_i problem failed
    exact failed.symm
  · rename_i type read
    exact read.symm

mutual

theorem decode_of_stands (format : DocumentFormat) :
    ∀ (type : TypeExpr) (node : Node), type.Stands node → decode { format } node = .ok type
  | .builtin name, _, stands => by
      simp only [Stands] at stands
      subst stands
      exact decode_single format "builtin" (.text name)
  | .external type, _, stands => by
      simp only [Stands] at stands
      obtain ⟨content, stands, rfl⟩ := stands
      have read := ExternalType.reads type content stands format
      rw [decode_single]
      simp [decodeSimple, read]
  | .ref name, _, stands => by
      simp only [Stands] at stands
      subst stands
      exact decode_single format "ref" (.text name)
  | .selfRef, _, stands => by
      simp only [Stands] at stands
      subst stands
      simp only [Node.text, decode]
      rfl
  | .container outer args, _, stands => by
      simp only [Stands] at stands
      obtain ⟨first, items, content, outerStands, argsStand, form, rfl⟩ := stands
      have read := ExternalType.reads outer first outerStands format
      have readAll := decodeAll_of_standAll format args items argsStand
      have readArgs : decodeArgs { format } (.list items true) = .ok args := by
        simp only [decodeArgs, Rules.enter, readAll, Decoder.ifWhole, if_true]
      rw [decode_single, if_pos (by decide)]
      rcases form with rfl | rfl | ⟨rfl, rfl⟩
      · simp [Node.ofFields, decodeContainer, Rules.enter, decodeParts, read, readArgs]
      · simp [decodeContainer, Rules.enter, decodeItems, read, readArgs, Decoder.ifWhole]
      · simp [decodeContainer, Rules.enter, decodeItems, read, Decoder.ifWhole]
  | .literal values, _, stands => by
      simp only [Stands] at stands
      subst stands
      have texts := Node.isList_of_map Node.isText_text values
      have read := Decoder.reads_list Decoder.reads_text values _ texts format
      rw [decode_single]
      simp [decodeSimple, read]

theorem decodeAll_of_standAll (format : DocumentFormat) :
    ∀ (types : List TypeExpr) (nodes : List Node), StandAll types nodes →
      decodeAll { format } nodes = .ok types
  | [], _, stands => by
      simp only [StandAll] at stands
      subst stands
      simp only [decodeAll]
  | type :: rest, _, stands => by
      simp only [StandAll] at stands
      obtain ⟨node, others, first, later, rfl⟩ := stands
      simp only [decodeAll, decode_of_stands format type node first,
        decodeAll_of_standAll format rest others later]

end

theorem reads : Decoder.Reads decode Stands :=
  fun type node stands format => decode_of_stands format type node stands

mutual

theorem stands_encode : ∀ type : TypeExpr, type.Stands type.encode
  | .builtin _ => by simp only [Stands, encode]
  | .external type => by
      simp only [Stands, encode]
      exact ⟨_, type.stands_encode, rfl⟩
  | .ref _ => by simp only [Stands, encode]
  | .selfRef => by simp only [Stands, encode]
  | .container outer args => by
      simp only [Stands, encode]
      exact ⟨_, _, _, outer.stands_encode, standAll_encodeAll args, Or.inl rfl, rfl⟩
  | .literal _ => by simp only [Stands, encode]

theorem standAll_encodeAll : ∀ types : List TypeExpr, StandAll types (encodeAll types)
  | [] => by simp only [StandAll, encodeAll]
  | type :: rest => by
      simp only [StandAll, encodeAll]
      exact ⟨_, _, stands_encode type, standAll_encodeAll rest, rfl⟩

end

/-- No type is written as what stands for the absence of one. -/
theorem present {type : TypeExpr} {scalar : Scalar} (stands : type.Stands (.scalar scalar)) :
    Decoder.isAbsent scalar = false := by
  cases type with
  | selfRef =>
      simp only [Stands, Node.text, Node.scalar.injEq] at stands
      subst stands
      rfl
  | builtin name => simp [Stands, Node.ofFields] at stands
  | external type => simp [Stands, Node.ofFields] at stands
  | ref name => simp [Stands, Node.ofFields] at stands
  | container outer args => simp [Stands, Node.ofFields] at stands
  | literal values => simp [Stands, Node.ofFields] at stands

end TypeExpr

end ServiceStubs
