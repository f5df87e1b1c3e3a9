import ServiceStubs.Document
import ServiceStubs.Yaml.Token
/-!
The document a YAML text stands for. A value that is left out is the plain
scalar `~`, and an anchor without a value the empty one. An alias stands for what
its anchor marks; inside of that it can be passed over but not read.
-/

namespace ServiceStubs.Yaml

structure Source where
  tokens : List Token
  anchors : List (String × Node) := []

namespace Source

def next? (source : Source) : Option Token :=
  source.tokens.head?

def skip (source : Source) : Source :=
  { source with tokens := source.tokens.drop 1 }

def mark (source : Source) (name : String) (node : Node) : Source :=
  { source with anchors := (name, node) :: source.anchors }

end Source

def absent : Node :=
  .scalar (.plain "~")

def scalarNode (isPlain : Bool) (text : String) : Node :=
  .scalar (if isPlain then .plain text else .text text)

def keyText : Node → Option String
  | .scalar (.plain text) => some text
  | .scalar (.text text) => some text
  | _ => none

abbrev Entry := Option String × Node

def leavesOut (ends : List Token) (source : Source) : Bool :=
  match source.next? with
  | some token => ends.contains token
  | none => true

mutual

/-- Reads one value. `inBlock` says whether a block collection may start here,
and `indentless` whether a sequence may at the column of its own mapping. Every
reader takes a number of steps that bounds its depth. -/
def node : Nat → Bool → Bool → Source → Option (Node × Source)
  | 0, _, _, _ => none
  | steps + 1, inBlock, indentless, source =>
      match source.next? with
      | some (.recall name) => (source.anchors.lookup name).map fun found => (found, source.skip)
      | some (.anchor name) =>
          -- Until its value is complete, an anchor marks what cannot be read.
          match content steps inBlock indentless true (source.skip.mark name (.scalar .unusable)) with
          | none => none
          | some (found, rest) => some (found, rest.mark name found)
      | _ => content steps inBlock indentless false source

def content : Nat → Bool → Bool → Bool → Source → Option (Node × Source)
  | 0, _, _, _, _ => none
  | steps + 1, inBlock, indentless, anchored, source =>
      match source.next? with
      | some (.scalar isPlain text) => some (scalarNode isPlain text, source.skip)
      | some .flowSequenceStart => flowItems steps true [] source.skip
      | some .flowMappingStart => flowEntries steps true [] source.skip
      | some .blockEntry =>
          if indentless then indentlessItems steps [] source else missing anchored source
      | some .blockSequenceStart =>
          if inBlock then blockItems steps [] source.skip else missing anchored source
      | some .blockMappingStart =>
          if inBlock then blockEntries steps [] source.skip else missing anchored source
      | _ => missing anchored source

def missing (anchored : Bool) (source : Source) : Option (Node × Source) :=
  if anchored then some (.scalar (.plain ""), source) else none

def valueUnless : Nat → List Token → Bool → Bool → Source → Option (Node × Source)
  | 0, _, _, _, _ => none
  | steps + 1, ends, inBlock, indentless, source =>
      if leavesOut ends source then some (absent, source)
      else node steps inBlock indentless source

def blockItems : Nat → List Node → Source → Option (Node × Source)
  | 0, _, _ => none
  | steps + 1, items, source =>
      match source.next? with
      | some .blockEnd => some (.list items.reverse true, source.skip)
      | some .blockEntry =>
          match valueUnless steps [.blockEntry, .blockEnd] true false source.skip with
          | none => none
          | some (item, rest) => blockItems steps (item :: items) rest
      | _ => none

def indentlessItems : Nat → List Node → Source → Option (Node × Source)
  | 0, _, _ => none
  | steps + 1, items, source =>
      match source.next? with
      | some .blockEntry =>
          match valueUnless steps [.blockEntry, .key, .value, .blockEnd] true false source.skip with
          | none => none
          | some (item, rest) => indentlessItems steps (item :: items) rest
      | _ => some (.list items.reverse true, source)

def blockEntries : Nat → List Entry → Source → Option (Node × Source)
  | 0, _, _ => none
  | steps + 1, entries, source =>
      match source.next? with
      | some .blockEnd => some (.table entries.reverse true, source.skip)
      | some .key =>
          match valueUnless steps [.key, .value, .blockEnd] true true source.skip with
          | none => none
          | some (key, rest) => blockValue steps entries key rest
      | some .value => blockValue steps entries absent source
      | _ => none

def blockValue : Nat → List Entry → Node → Source → Option (Node × Source)
  | 0, _, _, _ => none
  | steps + 1, entries, key, source =>
      match source.next? with
      | some .value =>
          match valueUnless steps [.key, .value, .blockEnd] true true source.skip with
          | none => none
          | some (value, rest) => blockEntries steps ((keyText key, value) :: entries) rest
      | _ => blockEntries steps ((keyText key, absent) :: entries) source

def flowItems : Nat → Bool → List Node → Source → Option (Node × Source)
  | 0, _, _, _ => none
  | steps + 1, isFirst, items, source =>
      match source.next? with
      | some .flowSequenceEnd => some (.list items.reverse true, source.skip)
      -- A comma in front of the first item is not passed over, and is no value.
      | some .flowEntry => flowItem steps items (if isFirst then source else source.skip)
      | _ => if isFirst then flowItem steps items source else none

def flowItem : Nat → List Node → Source → Option (Node × Source)
  | 0, _, _ => none
  | steps + 1, items, source =>
      match source.next? with
      | some .flowSequenceEnd => some (.list items.reverse true, source.skip)
      | some .key =>
          match flowPair steps source.skip with
          | none => none
          | some (item, rest) => flowItems steps false (item :: items) rest
      | _ =>
          match node steps false false source with
          | none => none
          | some (item, rest) => flowItems steps false (item :: items) rest

/-- Reads an item that is a key and its value. An empty key takes the token
behind it along. -/
def flowPair : Nat → Source → Option (Node × Source)
  | 0, _ => none
  | steps + 1, source =>
      let key :=
        if leavesOut [.value, .flowEntry, .flowSequenceEnd] source then some (absent, source.skip)
        else node steps false false source
      match key with
      | none => none
      | some (key, rest) =>
          match rest.next? with
          | some .value =>
              match valueUnless steps [.flowEntry, .flowSequenceEnd] false false rest.skip with
              | none => none
              | some (value, rest) => some (.table [(keyText key, value)] true, rest)
          | _ => some (.table [(keyText key, absent)] true, rest)

def flowEntries : Nat → Bool → List Entry → Source → Option (Node × Source)
  | 0, _, _, _ => none
  | steps + 1, isFirst, entries, source =>
      match source.next? with
      | some .flowMappingEnd => some (.table entries.reverse true, source.skip)
      | some .flowEntry =>
          if isFirst then flowKey steps entries source else flowKey steps entries source.skip
      | _ => if isFirst then flowKey steps entries source else none

def flowKey : Nat → List Entry → Source → Option (Node × Source)
  | 0, _, _ => none
  | steps + 1, entries, source =>
      match source.next? with
      | some .flowMappingEnd => some (.table entries.reverse true, source.skip)
      | some .key =>
          match valueUnless steps [.value, .flowEntry, .flowMappingEnd] false false source.skip with
          | none => none
          | some (key, rest) => flowValue steps entries key rest
      | some .value => flowValue steps entries absent source
      | _ =>
          -- A value without a colon is a key whose value is left out.
          match node steps false false source with
          | none => none
          | some (key, rest) => flowEntries steps false ((keyText key, absent) :: entries) rest

def flowValue : Nat → List Entry → Node → Source → Option (Node × Source)
  | 0, _, _, _ => none
  | steps + 1, entries, key, source =>
      match source.next? with
      | some .value =>
          match valueUnless steps [.flowEntry, .flowMappingEnd] false false source.skip with
          | none => none
          | some (value, rest) => flowEntries steps false ((keyText key, value) :: entries) rest
      | _ => flowEntries steps false ((keyText key, absent) :: entries) source

end

def endsStream : List Token → Bool
  | [] => true
  | .documentEnd :: rest => endsStream rest
  | _ => false

def document (tokens : List Token) : Option Node :=
  let steps := 4 * tokens.length + 8
  let read :=
    match tokens with
    | [] => none
    | .documentStart :: rest =>
        match rest with
        | [] | .documentStart :: _ | .documentEnd :: _ => some (absent, { tokens := rest : Source })
        | _ => node steps true false { tokens := rest }
    | _ => node steps true false { tokens }
  match read with
  | some (found, rest) => if endsStream rest.tokens then some found else none
  | none => none

def levelLimit : Nat := 128

def decode (decoder : Decoder α) (text : String) : Except DecodeError α :=
  match (tokens text).bind document with
  | none => .error .invalid
  | some found => decoder { format := .yaml, levels := some levelLimit } found

end ServiceStubs.Yaml
