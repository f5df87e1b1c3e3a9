/-!
What a document holds, whatever its notation: scalars, lists and tables. A
table keeps its entries in the order written, repetitions included. The part of
a document that could be read before a mistake in its notation is kept as well:
a list or table is whole when it was closed, and `broken` stands where a value
was due and none could be read.
-/

namespace ServiceStubs

inductive Scalar
  | null
  | truth (value : Bool)
  | number (lexeme : String)
  | text (value : String)
  /-- What can be passed over but not read, such as a string that names half of
  a surrogate pair and so is no text. -/
  | unusable
  /-- A scalar without quotes in a notation that lets the reader decide what it is. -/
  | plain (value : String)
  | moment
deriving DecidableEq, Repr, Inhabited

-- A key that is no text is `none`.
inductive Node
  | scalar (value : Scalar)
  | list (items : List Node) (whole : Bool)
  | table (entries : List (Option String × Node)) (whole : Bool)
  | broken
deriving Repr, Inhabited

namespace Node

def text (value : String) : Node :=
  scalar (.text value)

def truth (value : Bool) : Node :=
  scalar (.truth value)

def natural (value : Nat) : Node :=
  scalar (.number (toString value))

def ofOption (write : α → Node) : Option α → Node
  | none => scalar .null
  | some value => write value

def ofList (write : α → Node) (values : List α) : Node :=
  list (values.map write) true

def ofFields (fields : List (String × Node)) : Node :=
  table (fields.map fun (name, value) => (some name, value)) true

mutual

/-- Whether the value was read to its end, so that it can be passed over. -/
def intact : Node → Bool
  | scalar _ => true
  | list items whole => allIntact items && whole
  | table entries whole => entriesIntact entries && whole
  | broken => false

def allIntact : List Node → Bool
  | [] => true
  | node :: rest => intact node && allIntact rest

def entriesIntact : List (Option String × Node) → Bool
  | [] => true
  | (_, node) :: rest => intact node && entriesIntact rest

end

end Node

/-!
Natural numbers in documents: a number is a run of decimal digits. A scalar
without quotes may also be signed, or be written to the base 16, 8 or 2.
-/

namespace Natural

def digit? (base : Nat) (c : Char) : Option Nat :=
  let n := c.toNat
  let value :=
    if 0x30 ≤ n && n ≤ 0x39 then n - 0x30
    else if 0x61 ≤ n && n ≤ 0x7A then n - 0x61 + 10
    else if 0x41 ≤ n && n ≤ 0x5A then n - 0x41 + 10
    else base
  if value < base then some value else none

def digitsFrom (base : Nat) : Nat → List Char → Option Nat
  | read, [] => some read
  | read, c :: rest =>
      match digit? base c with
      | some value => digitsFrom base (read * base + value) rest
      | none => none

def digits? (base : Nat) : List Char → Option Nat
  | [] => none
  | cs => digitsFrom base 0 cs

def signedDigits? (base : Nat) : List Char → Option Nat
  | '+' :: rest => digits? base rest
  | cs => digits? base cs

/-- Digits after the mark of a base. Below a minus only zero is natural. -/
def marked? (base : Nat) (negative : Bool) (digits : List Char) : Option Nat :=
  if negative then
    match digits? base digits with
    | some 0 => some 0
    | _ => none
  else signedDigits? base digits

def decimal? (negative : Bool) (digits : List Char) : Option Nat :=
  match digits with
  | '0' :: _ :: _ => none
  | _ =>
      match digits? 10 digits with
      | some value => if negative && value != 0 then none else some value
      | none => none

def unsigned? (negative : Bool) : List Char → Option Nat
  | '0' :: 'x' :: digits => marked? 16 negative digits
  | '0' :: 'o' :: digits => marked? 8 negative digits
  | '0' :: 'b' :: digits => marked? 2 negative digits
  | digits => decimal? negative digits

def plain? (text : String) : Option Nat :=
  match text.toList with
  | '+' :: rest => unsigned? false rest
  | '-' :: rest => unsigned? true rest
  | cs => unsigned? false cs

def ofScalar? : Scalar → Option Nat
  | .number lexeme => digits? 10 lexeme.toList
  | .plain text => plain? text
  | _ => none

end Natural

/-!
Reading values out of documents. A record is written as a table, or as the list
of its fields in the order declared, where fields that have a default may be
left out at the end. Of several mistakes the one met first is reported, reading
from left to right; that a field is missing shows at the end of its table.
-/

inductive DecodeError
  | missingField (name : String)
  | duplicateField (name : String)
  | unknownVariant (name : String)
  | invalid
  | other (message : String)
deriving DecidableEq, Repr

inductive DocumentFormat
  | json
  | yaml
  | toml
deriving DecidableEq, Repr, Inhabited

structure Rules where
  format : DocumentFormat := .json
  levels : Option Nat := none
deriving DecidableEq, Repr, Inhabited

namespace Rules

def enter (rules : Rules) : Except DecodeError Rules :=
  match rules.levels with
  | none => .ok rules
  | some 0 => .error .invalid
  | some (levels + 1) => .ok { rules with levels := some levels }

def enterVariant (rules : Rules) : Except DecodeError Rules :=
  match rules.format with
  | .json => rules.enter
  | .yaml | .toml => .ok rules

/-- Whether a table may name a variant when it has `count` entries, seen before
the variant is known. -/
def admitsVariants (rules : Rules) (count : Nat) : Bool :=
  match rules.format with
  | .toml => count == 1
  | .json | .yaml => 0 < count

end Rules

abbrev Decoder (α : Type) :=
  Rules → Node → Except DecodeError α

namespace Decoder

def text : Decoder String
  | _, .scalar (.text value) => .ok value
  | _, .scalar (.plain value) => .ok value
  | _, _ => .error .invalid

def truth : Decoder Bool
  | _, .scalar (.truth value) => .ok value
  | _, .scalar (.plain "true") => .ok true
  | _, .scalar (.plain "false") => .ok false
  | _, _ => .error .invalid

def natural (bound : Nat) : Decoder Nat
  | _, .scalar value =>
      match Natural.ofScalar? value with
      | some number => if number < bound then .ok number else .error .invalid
      | none => .error .invalid
  | _, _ => .error .invalid

def isAbsent : Scalar → Bool
  | .null => true
  | .plain text => text == "~" || text == "null"
  | _ => false

def optional (decode : Decoder α) : Decoder (Option α)
  | rules, .scalar value =>
      if isAbsent value then .ok none
      else
        match decode rules (.scalar value) with
        | .ok found => .ok (some found)
        | .error problem => .error problem
  | rules, node =>
      match decode rules node with
      | .ok found => .ok (some found)
      | .error problem => .error problem

def all (decode : Node → Except DecodeError α) : List Node → Except DecodeError (List α)
  | [] => .ok []
  | node :: rest =>
      match decode node with
      | .error problem => .error problem
      | .ok value =>
          match all decode rest with
          | .error problem => .error problem
          | .ok values => .ok (value :: values)

def ifWhole (whole : Bool) (value : α) : Except DecodeError α :=
  if whole then .ok value else .error .invalid

def list (decode : Decoder α) : Decoder (List α)
  | rules, .list items whole =>
      match rules.enter with
      | .error problem => .error problem
      | .ok inner =>
          match all (decode inner) items with
          | .error problem => .error problem
          | .ok values => ifWhole whole values
  | _, _ => .error .invalid

def pair (first : Decoder α) (second : Decoder β) : Decoder (α × β)
  | rules, .list items whole =>
      match rules.enter with
      | .error problem => .error problem
      | .ok inner =>
          match items with
          | [] => .error .invalid
          | a :: rest =>
              match first inner a with
              | .error problem => .error problem
              | .ok x =>
                  match rest with
                  | [] => .error .invalid
                  | b :: further =>
                      match second inner b with
                      | .error problem => .error problem
                      | .ok y => ifWhole (whole && further.isEmpty) (x, y)
  | _, _ => .error .invalid

def unit : Decoder Unit
  | rules, node =>
      match rules.format, node with
      | .toml, .table [] _ => .ok ()
      | .toml, .list [] _ => .ok ()
      | .toml, _ => .error .invalid
      | _, .scalar value => if isAbsent value then .ok () else .error .invalid
      | _, _ => .error .invalid

def choice (variants : List (String × α)) : Decoder α
  | _, .scalar (.text name) | _, .scalar (.plain name) =>
      match variants.lookup name with
      | some value => .ok value
      | none => .error (.unknownVariant name)
  | rules, .table ((some name, payload) :: rest) whole =>
      match rules.enterVariant with
      | .error problem => .error problem
      | .ok inner =>
          if !rules.admitsVariants (rest.length + 1) then .error .invalid
          else
            match variants.lookup name with
            | none => .error (.unknownVariant name)
            | some value =>
                match unit inner payload with
                | .error problem => .error problem
                | .ok () => ifWhole (whole && rest.isEmpty) value
  | _, _ => .error .invalid

end Decoder

structure Slot (α : Type) where
  name : String
  required : Bool
  read : Rules → Node → α → Except DecodeError α

namespace Slot

def make (required : Bool) (name : String) (decode : Decoder β) (put : β → α → α) : Slot α :=
  { name, required
    read := fun rules node record =>
      match decode rules node with
      | .ok value => .ok (put value record)
      | .error problem => .error problem }

def needed (name : String) (decode : Decoder β) (put : β → α → α) : Slot α :=
  make true name decode put

def defaulted (name : String) (decode : Decoder β) (put : β → α → α) : Slot α :=
  make false name decode put

end Slot

namespace Decoder

def entries (slots : List (Slot α)) (rules : Rules) :
    List (Option String × Node) → List String → α → Except DecodeError (List String × α)
  | [], seen, record => .ok (seen, record)
  | (none, _) :: _, _, _ => .error .invalid
  | (some key, node) :: rest, seen, record =>
      match slots.find? (·.name == key) with
      -- What an unknown key holds is passed over, as long as it is complete.
      | none => if node.intact then entries slots rules rest seen record else .error .invalid
      | some slot =>
          if seen.contains key then .error (.duplicateField key)
          else
            match slot.read rules node record with
            | .error problem => .error problem
            | .ok grown => entries slots rules rest (key :: seen) grown

def items (rules : Rules) (whole : Bool) : List (Slot α) → List Node → α → Except DecodeError α
  | [], [], record => ifWhole whole record
  | [], _ :: _, _ => .error .invalid
  | slot :: slots, [], record =>
      if slot.required then .error .invalid else items rules whole slots [] record
  | slot :: slots, node :: rest, record =>
      match slot.read rules node record with
      | .error problem => .error problem
      | .ok grown => items rules whole slots rest grown

def complete (slots : List (Slot α)) (seen : List String) (record : α) : Except DecodeError α :=
  match slots.find? fun slot => slot.required && !seen.contains slot.name with
  | some slot => .error (.missingField slot.name)
  | none => .ok record

def record (slots : List (Slot α)) (blank : α) : Decoder α
  | rules, .table found whole =>
      match rules.enter with
      | .error problem => .error problem
      | .ok inner =>
          match entries slots inner found [] blank with
          | .error problem => .error problem
          | .ok (seen, value) =>
              if whole then complete slots seen value else .error .invalid
  | rules, .list found whole =>
      match rules.enter with
      | .error problem => .error problem
      | .ok inner => items inner whole slots found blank
  -- A point in time counts as a table with none of the fields.
  | _, .scalar .moment => complete slots [] blank
  | _, _ => .error .invalid

end Decoder

end ServiceStubs
