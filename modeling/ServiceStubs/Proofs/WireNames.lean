import ServiceStubs.Descriptor
/-!
The name of a field as it is quoted in the two definitions of a descriptor. The
key of a mapping type has escapes and ends at its own last quote whatever the
name is. The data class has the name as it is given, so its quoted name is the
same as the key only where there is nothing to escape.
-/

namespace ServiceStubs

namespace Text
variable {c : Char} {cs : List Char}

section Quoting

def Shown (c : Char) : Prop :=
  c ≠ '"' ∧ c ≠ '\\' ∧ isPrintable c = true ∧ extendsGrapheme c = false

instance : DecidablePred Shown :=
  fun c => inferInstanceAs (Decidable (c ≠ '"' ∧ c ≠ '\\' ∧ _))

def Plain (c : Char) : Prop :=
  c ∉ ['"', '\\', '\n', '\r']

instance : DecidablePred Plain :=
  fun c => inferInstanceAs (Decidable (c ∉ ['"', '\\', '\n', '\r']))

theorem Shown.not_mem_controls (shown : Shown c) : c ∉ ['\x00', '\t', '\r', '\n'] := by
  intro member
  simp only [List.mem_cons, List.not_mem_nil, or_false] at member
  rcases member with rfl | rfl | rfl | rfl <;> exact absurd shown.2.2.1 (by decide)

theorem Shown.plain (shown : Shown c) : Plain c := by
  have visible := shown.not_mem_controls
  simp only [Plain, List.mem_cons, List.not_mem_nil, not_or, or_false] at visible ⊢
  exact ⟨shown.1, shown.2.1, visible.2.2.2, visible.2.2.1⟩

theorem plain_of_mem_toDigits {n : Nat} (member : c ∈ Nat.toDigits 16 n) : Plain c := by
  induction n using Nat.strongRecOn with
  | ind n ih =>
      have digits : ∀ digit < 16, Plain (Nat.digitChar digit) := by decide
      rw [Nat.toDigits_eq_if (by decide)] at member
      split at member
      · rename_i last
        rw [List.mem_singleton.1 member]
        exact digits n last
      · rename_i more
        rcases List.mem_append.1 member with earlier | last
        · exact ih (n / 16) (by omega) earlier
        · rw [List.mem_singleton.1 last]
          exact digits (n % 16) (Nat.mod_lt n (by decide))

theorem quotedChar_of_shown (shown : Shown c) : quotedChar c = [c] := by
  have visible := shown.not_mem_controls
  obtain ⟨quote, backslash, printable, extender⟩ := shown
  simp only [List.mem_cons, not_or] at visible
  simp [quotedChar, visible, quote, backslash, printable, extender]

/-- What is not shown has a backslash, one more character, and perhaps a number in braces. -/
theorem quotedChar_of_not_shown (hidden : ¬ Shown c) : ∃ kind number,
    quotedChar c = '\\' :: kind :: number ∧ ∀ d ∈ number, Plain d := by
  have braced : ∀ d ∈ '\x7b' :: Nat.toDigits 16 c.toNat ++ ['\x7d'], Plain d := by
    intro d member
    rcases List.mem_append.1 member with before | last
    · rcases List.mem_cons.1 before with rfl | digit
      · decide
      · exact plain_of_mem_toDigits digit
    · rw [List.mem_singleton.1 last]
      decide
  unfold quotedChar
  -- Only the last case leaves the character as it is, and then it is shown.
  repeat' split
  all_goals first
    | exact ⟨_, _, rfl, List.forall_mem_nil _⟩
    | exact ⟨_, _, rfl, braced⟩
    | exact absurd (by simp_all [Shown]) hidden

theorem one_lt_length_quotedChar (hidden : ¬ Shown c) : 1 < (quotedChar c).length := by
  obtain ⟨kind, number, escape, _⟩ := quotedChar_of_not_shown hidden
  simp [escape]

theorem length_le_flatMap_quotedChar (cs : List Char) :
    cs.length ≤ (cs.flatMap quotedChar).length := by
  induction cs with
  | nil => exact Nat.le_refl 0
  | cons c cs ih =>
      rw [List.flatMap_cons, List.length_append, List.length_cons]
      by_cases shown : Shown c
      · rw [quotedChar_of_shown shown, List.length_singleton]
        omega
      · have longer := one_lt_length_quotedChar shown
        omega

/-- A text is quoted as it is only if all of it is shown, since an escape makes it longer. -/
theorem flatMap_quotedChar_eq_iff : cs.flatMap quotedChar = cs ↔ ∀ c ∈ cs, Shown c := by
  induction cs with
  | nil => simp
  | cons c cs ih =>
      rw [List.flatMap_cons, List.forall_mem_cons, ← ih]
      by_cases shown : Shown c
      · simp [quotedChar_of_shown shown, shown]
      · have longer := one_lt_length_quotedChar shown
        have rest := length_le_flatMap_quotedChar cs
        simp only [shown, false_and, iff_false]
        intro same
        have lengths := congrArg List.length same
        rw [List.length_append, List.length_cons] at lengths
        omega

end Quoting

section Literal

/-- What follows a literal whose opening quote has been read. A backslash takes the character
behind it along, and a literal does not go on over the end of a line. -/
def afterLiteral : List Char → Option (List Char)
  | [] => none
  | '"' :: rest => some rest
  | '\n' :: _ | '\r' :: _ => none
  | '\\' :: _ :: rest => afterLiteral rest
  | _ :: rest => afterLiteral rest

/-- The text is a literal that ends with the text, whatever comes behind it. -/
def Closes (text : String) : Prop :=
  ∃ body, text.toList = '"' :: body ∧ ∀ rest, afterLiteral (body ++ rest) = some rest

theorem afterLiteral_cons (plain : Plain c) (rest : List Char) :
    afterLiteral (c :: rest) = afterLiteral rest := by
  simp only [Plain, List.mem_cons, List.not_mem_nil, not_or] at plain
  rw [afterLiteral] <;> simp_all

theorem afterLiteral_append (plain : ∀ c ∈ cs, Plain c) (rest : List Char) :
    afterLiteral (cs ++ rest) = afterLiteral rest := by
  induction cs with
  | nil => rfl
  | cons c cs ih =>
      rw [List.forall_mem_cons] at plain
      rw [List.cons_append, afterLiteral_cons plain.1, ih plain.2]

theorem afterLiteral_quotedChar (c : Char) (rest : List Char) :
    afterLiteral (quotedChar c ++ rest) = afterLiteral rest := by
  by_cases shown : Shown c
  · rw [quotedChar_of_shown shown]
    exact afterLiteral_cons shown.plain rest
  · obtain ⟨kind, number, escape, plain⟩ := quotedChar_of_not_shown shown
    rw [escape, List.cons_append, List.cons_append, afterLiteral, afterLiteral_append plain]

theorem afterLiteral_flatMap_quotedChar (cs rest : List Char) :
    afterLiteral (cs.flatMap quotedChar ++ rest) = afterLiteral rest := by
  induction cs with
  | nil => rfl
  | cons c cs ih => rw [List.flatMap_cons, List.append_assoc, afterLiteral_quotedChar, ih]

theorem closes_quoted (text : String) : Closes (quoted text) := by
  refine ⟨text.toList.flatMap quotedChar ++ ['"'], String.toList_ofList, fun rest => ?_⟩
  rw [List.append_assoc, afterLiteral_flatMap_quotedChar]
  rfl

end Literal

end Text

namespace Field

def key (field : Field) : String :=
  Text.quoted field.name

def wireName (field : Field) : String :=
  "\"" ++ field.name ++ "\""

theorem dataclassAttribute_ends (table : PresentationTable) (field : Field) :
    ∃ before, field.dataclassAttribute table =
      before ++ "metadata=config(field_name=" ++ field.wireName ++ "))" := by
  unfold dataclassAttribute metadata wireName
  split
  · refine ⟨field.attributeName ++ ": " ++ field.dataclassAnnotation table ++ " = field(", ?_⟩
    simp [← String.toList_inj]
  · refine ⟨field.attributeName ++ ": Optional[" ++ field.dataclassAnnotation table
      ++ "] = field(default=None, ", ?_⟩
    simp [← String.toList_inj]

theorem wireName_eq_iff {field : Field} :
    field.wireName = field.key ↔ ∀ c ∈ field.name.toList, Text.Shown c := by
  rw [← Text.flatMap_quotedChar_eq_iff, ← String.toList_inj, wireName, key, Text.quoted]
  simp [eq_comm]

/-- The two names are the same literal exactly where the name has nothing to escape. The key
ends at its last quote in any case. -/
theorem wireName_eq_key_iff (table : PresentationTable) (field : Field) :
    field.mappingEntry table = field.key ++ ": " ++ field.type.render table ∧
    (∃ before, field.dataclassAttribute table =
      before ++ "metadata=config(field_name=" ++ field.wireName ++ "))") ∧
    Text.Closes field.key ∧
    (field.wireName = field.key ↔ ∀ c ∈ field.name.toList, Text.Shown c) ∧
    ((∀ c ∈ field.name.toList, Text.Shown c) → Text.Closes field.wireName) := by
  refine ⟨rfl, field.dataclassAttribute_ends table, Text.closes_quoted field.name,
    wireName_eq_iff, fun shown => ?_⟩
  rw [wireName_eq_iff.2 shown]
  exact Text.closes_quoted field.name

def quoteField : Field where
  name := "a\"b"
  type := .builtin "str"

theorem quoteField_breaksOut :
    quoteField.wireName ≠ quoteField.key ∧ ¬ Text.Closes quoteField.wireName := by
  have hidden : ¬ ∀ c ∈ quoteField.name.toList, Text.Shown c :=
    fun shown => (shown '"' (by decide)).1 rfl
  refine ⟨fun same => hidden (wireName_eq_iff.1 same), ?_⟩
  rintro ⟨body, spelled, closes⟩
  have text : quoteField.wireName.toList = '"' :: ['a', '"', 'b', '"'] := by decide
  obtain rfl := (List.cons.inj (spelled.symm.trans text)).2
  exact absurd (closes []) (by decide)

end Field

end ServiceStubs
