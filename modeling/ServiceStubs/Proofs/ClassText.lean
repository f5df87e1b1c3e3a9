import ServiceStubs.Proofs.Lines
import ServiceStubs.Stub
/-!
The lines of a generated class. Its header is one line, and every line of a
method or of documentation stands below it and to the right, however many lines
there are and wherever they break. Below the header there is always something,
since a method has its signature, documentation its quotes, and a class without
either has `pass`.
-/

namespace ServiceStubs

namespace Text
variable {line cs : List Char} {texts : List (List Char)}

structure IsBody (texts : List (List Char)) : Prop where
  filled : ∃ line ∈ texts, ∃ c ∈ line, isBlank c = false
  inside : ∀ line ∈ texts, line ≠ [] → indentation <+: line

/-- Between line feeds the text is empty or set in. -/
def Inside (cs : List Char) : Prop :=
  ∀ line ∈ split '\n' cs, line ≠ [] → indentation <+: line

section Inside

theorem inside_append_feed (before after : List Char) :
    Inside (before ++ '\n' :: after) ↔ Inside before ∧ Inside after := by
  unfold Inside
  rw [split_append, List.forall_mem_append]

theorem inside_of_not_mem (single : '\n' ∉ line) :
    Inside line ↔ (line ≠ [] → indentation <+: line) := by
  unfold Inside
  rw [split_of_not_mem single, List.forall_mem_singleton]

theorem inside_joinLines (each : ∀ line ∈ texts, Inside line) : Inside (joinLines texts) := by
  induction texts with
  | nil => exact (inside_of_not_mem List.not_mem_nil).2 fun filled => absurd rfl filled
  | cons line rest ih =>
      rw [List.forall_mem_cons] at each
      cases rest with
      | nil => exact each.1
      | cons next others => exact (inside_append_feed _ _).2 ⟨each.1, ih each.2⟩

theorem inside_indentLine (single : '\n' ∉ line) : Inside (indentLine line) := by
  unfold indentLine
  split
  · exact (inside_of_not_mem List.not_mem_nil).2 fun filled => absurd rfl filled
  · have whole : '\n' ∉ indentation ++ line := by
      rw [List.mem_append, not_or]
      exact ⟨by decide, single⟩
    exact (inside_of_not_mem whole).2 fun _ => List.prefix_append indentation line

theorem inside_indent (text : String) : Inside (indent text).toList := by
  rw [indent, String.toList_ofList]
  apply inside_joinLines
  intro indented member
  obtain ⟨line, listed, rfl⟩ := List.mem_map.1 member
  exact inside_indentLine ((isLines_lines text.toList).not_mem listed)

/-- A carriage return at the end of a line may be counted to the line or not. -/
theorem IsLines.inside (read : IsLines cs texts) (inside : Inside cs) :
    ∀ line ∈ texts, line ≠ [] → indentation <+: line := by
  induction read with
  | nil => exact fun line member => nomatch member
  | last _ single => exact List.forall_mem_singleton.2 ((inside_of_not_mem single).1 inside)
  | feed single _ _ ih =>
      obtain ⟨first, later⟩ := (inside_append_feed _ _).1 inside
      exact List.forall_mem_cons.2 ⟨(inside_of_not_mem single).1 first, ih later⟩
  | @pair line cs texts single _ ih =>
      rw [List.append_cons, inside_append_feed] at inside
      obtain ⟨first, later⟩ := inside
      have whole : '\n' ∉ line ++ ['\r'] := by simpa using single
      have start := (inside_of_not_mem whole).1 first (by simp)
      refine List.forall_mem_cons.2 ⟨fun filled => ?_, ih later⟩
      rcases List.prefix_concat_iff.1 start with same | shorter
      · have ends : indentation.getLast? = some '\r' := by rw [same, List.getLast?_concat]
        exact absurd ends (by decide)
      · exact shorter

end Inside

section Blank

theorem all_blank_split (cs : List Char) :
    ((split '\n' cs).all fun line => line.all isBlank) = cs.all isBlank := by
  induction cs with
  | nil => rfl
  | cons c rest ih =>
      rw [split]
      split
      · rename_i feed
        simp [feed, ih]
      · cases pieces : split '\n' rest with
        | nil => exact absurd pieces (split_ne_nil '\n' rest)
        | cons first others =>
            rw [pieces] at ih
            simp [← ih, Bool.and_assoc]

theorem all_blank_joinLines (texts : List (List Char)) :
    (joinLines texts).all isBlank = texts.all fun line => line.all isBlank := by
  induction texts with
  | nil => rfl
  | cons line rest ih =>
      cases rest with
      | nil => simp [joinLines]
      | cons next others => simp [joinLines, ih]

theorem all_blank_indentLine (line : List Char) :
    (indentLine line).all isBlank = line.all isBlank := by
  unfold indentLine
  split
  · rename_i empty
    rw [List.isEmpty_iff.1 empty]
  · rw [List.all_append]
    rfl

/-- Indentation says nothing and takes nothing away. -/
theorem all_blank_indent (text : String) :
    (indent text).toList.all isBlank = text.toList.all isBlank := by
  rw [indent, String.toList_ofList, all_blank_joinLines, List.all_map,
    ← (isLines_lines text.toList).all_blank]
  congr 1
  funext line
  exact all_blank_indentLine line

theorem exists_filled (filled : cs.all isBlank = false)
    (same : (texts.all fun line => line.all isBlank) = cs.all isBlank) :
    ∃ line ∈ texts, ∃ c ∈ line, isBlank c = false := by
  rw [← same] at filled
  simpa using filled

end Blank

theorem toList_intercalate_feed (texts : List String) :
    (String.intercalate "\n" texts).toList = joinLines (texts.map String.toList) := by
  induction texts with
  | nil => rfl
  | cons first rest ih =>
      cases rest with
      | nil => simp [joinLines]
      | cons second others =>
          rw [String.intercalate_cons_cons, String.toList_append, String.toList_append, ih]
          simp [joinLines]

theorem feed_not_mem_intercalate {texts : List String} (single : ∀ text ∈ texts, '\n' ∉ text.toList) :
    '\n' ∉ (String.intercalate ", " texts).toList := by
  induction texts with
  | nil => exact List.not_mem_nil
  | cons first rest ih =>
      rw [List.forall_mem_cons] at single
      cases rest with
      | nil => simpa using single.1
      | cons second others =>
          rw [String.intercalate_cons_cons, String.toList_append, String.toList_append,
            List.mem_append, List.mem_append, not_or, not_or]
          exact ⟨⟨single.1, by decide⟩, ih single.2⟩

end Text

theorem Callable.methodText_filled (table : PresentationTable) (method : Callable) :
    (method.methodText table).toList.all Text.isBlank = false := by
  have starts : ∃ rest, (method.methodText table).toList = 'd' :: rest := by
    unfold methodText withBody methodSignature signature
    split
    · exact ⟨_, by simp; rfl⟩
    · exact ⟨_, by simp; rfl⟩
  obtain ⟨rest, spelled⟩ := starts
  rw [spelled]
  rfl

namespace ClassView

def described (table : PresentationTable) (outline : ClassOutline) (docstring : String)
    (attributes : List String) : ClassView :=
  { ofOutline table outline with docstring := docstring, attributes := attributes }

section Parts
variable {view : ClassView} {part : String}

theorem body_ne_nil (view : ClassView) : view.body ≠ [] := by
  unfold body
  split
  · exact List.cons_ne_nil _ _
  · rename_i some
    cases opening : view.opening with
    | cons first rest => simp
    | nil =>
        cases methods : view.methods with
        | nil => simp [opening, methods] at some
        | cons method rest => simp [methodLines]

theorem mem_methodLines {preceded : Bool} {methods : List String}
    (member : part ∈ methodLines preceded methods) :
    part = "" ∨ ∃ method ∈ methods, part = Text.indent method := by
  induction methods generalizing preceded with
  | nil => cases member
  | cons method rest ih =>
      rw [methodLines, List.mem_append] at member
      rcases member with here | later
      · cases preceded <;> simp at here
        · exact Or.inr ⟨method, List.mem_cons_self, here⟩
        · exact here.imp_right fun same => ⟨method, List.mem_cons_self, same⟩
      · refine (ih later).imp_right ?_
        rintro ⟨method, listed, same⟩
        exact ⟨method, List.mem_cons_of_mem _ listed, same⟩

theorem indent_mem_methodLines {method : String} {methods : List String}
    (listed : method ∈ methods) (preceded : Bool) :
    Text.indent method ∈ methodLines preceded methods := by
  induction methods generalizing preceded with
  | nil => cases listed
  | cons first rest ih =>
      rw [methodLines, List.mem_append]
      rcases List.mem_cons.1 listed with rfl | later
      · cases preceded <;> simp
      · exact Or.inr (ih later true)

theorem inside_of_mem_opening (single : ∀ text ∈ view.attributes, '\n' ∉ text.toList)
    (member : part ∈ view.opening) : Text.Inside part.toList := by
  rcases List.mem_append.1 member with documented | declared
  · split at documented
    · cases documented
    · rw [List.mem_singleton.1 documented]
      exact Text.inside_indent _
  · obtain ⟨text, listed, rfl⟩ := List.mem_map.1 declared
    have whole : '\n' ∉ ("    " ++ text).toList := by
      simpa using single text listed
    refine (Text.inside_of_not_mem whole).2 fun _ => ?_
    rw [String.toList_append]
    exact List.prefix_append _ _

theorem inside_of_mem_body (single : ∀ text ∈ view.attributes, '\n' ∉ text.toList)
    (member : part ∈ view.body) : Text.Inside part.toList := by
  unfold body at member
  split at member
  · rw [List.mem_singleton.1 member]
    exact (Text.inside_of_not_mem (by decide)).2 fun _ => by decide
  · rcases List.mem_append.1 member with first | later
    · exact inside_of_mem_opening single first
    · rcases mem_methodLines later with rfl | ⟨method, _, rfl⟩
      · exact (Text.inside_of_not_mem (by decide)).2 fun filled => absurd rfl filled
      · exact Text.inside_indent method

theorem filled_of_mem_opening (filled : ∀ text ∈ view.attributes, Text.isEmptyOrBlank text = false)
    (member : part ∈ view.opening) : part.toList.all Text.isBlank = false := by
  rcases List.mem_append.1 member with documented | declared
  · split at documented
    · cases documented
    · rw [List.mem_singleton.1 documented, Text.docstringBlock, Text.all_blank_indent]
      simp [Text.isBlank]
  · obtain ⟨text, listed, rfl⟩ := List.mem_map.1 declared
    rw [String.toList_append, List.all_append, Bool.and_eq_false_iff]
    exact Or.inr (filled text listed)

theorem exists_filled_part (methods : ∀ method ∈ view.methods, method.toList.all Text.isBlank = false)
    (filled : ∀ text ∈ view.attributes, Text.isEmptyOrBlank text = false) :
    ∃ part ∈ view.body, part.toList.all Text.isBlank = false := by
  unfold body
  split
  · exact ⟨"    pass", List.mem_cons_self, by decide⟩
  · rename_i some
    cases opening : view.opening with
    | cons first rest =>
        have listed : first ∈ view.opening := by simp [opening]
        exact ⟨first, by simp, filled_of_mem_opening filled listed⟩
    | nil =>
        cases given : view.methods with
        | nil => simp [opening, given] at some
        | cons method rest =>
            have listed : method ∈ view.methods := by simp [given]
            refine ⟨Text.indent method, ?_, ?_⟩
            · exact List.mem_append_right _ (indent_mem_methodLines List.mem_cons_self _)
            · rw [Text.all_blank_indent]
              exact methods method listed

theorem toList_text (view : ClassView) : view.text.toList =
    view.header.toList ++ '\n' :: Text.joinLines (view.body.map String.toList) := by
  obtain ⟨first, rest, parts⟩ := List.exists_cons_of_ne_nil view.body_ne_nil
  rw [text, Text.toList_intercalate_feed, parts]
  rfl

theorem feed_not_mem_header (named : '\n' ∉ view.name.toList)
    (based : ∀ base ∈ view.bases, '\n' ∉ base.toList) : '\n' ∉ view.header.toList := by
  have bases := Text.feed_not_mem_intercalate based
  unfold header
  split
  · simp [named]
  · simp only [String.toList_append, List.mem_append, not_or]
    exact ⟨⟨⟨⟨by decide, named⟩, by decide⟩, bases⟩, by decide⟩

theorem header_ends (view : ClassView) : view.header.toList.getLast? = some ':' := by
  unfold header
  split
  · rw [String.toList_append]
    exact List.getLast?_concat
  · rw [String.toList_append, List.getLast?_append_of_ne_nil _ (by decide)]
    rfl

end Parts

/-- A class is its header and, below and to the right of it, a body that is not empty. -/
theorem text_isBlock (table : PresentationTable) (outline : ClassOutline) (docstring : String)
    (attributes : List String) (named : '\n' ∉ outline.name.toList)
    (based : ∀ base ∈ outline.bases, '\n' ∉ base.name.toList)
    (single : ∀ text ∈ attributes, '\n' ∉ text.toList)
    (filled : ∀ text ∈ attributes, Text.isEmptyOrBlank text = false) :
    let view := described table outline docstring attributes
    (∃ body, Text.split '\n' view.text.toList = view.header.toList :: body ∧ Text.IsBody body) ∧
    ∃ body, Text.lines view.text.toList = view.header.toList :: body ∧ Text.IsBody body := by
  intro view
  have header : '\n' ∉ view.header.toList := by
    apply feed_not_mem_header named
    intro base member
    obtain ⟨type, listed, rfl⟩ := List.mem_map.1 member
    exact based type listed
  have inside : Text.Inside (Text.joinLines (view.body.map String.toList)) := by
    apply Text.inside_joinLines
    intro line member
    obtain ⟨part, listed, rfl⟩ := List.mem_map.1 member
    exact inside_of_mem_body single listed
  have nonblank : (Text.joinLines (view.body.map String.toList)).all Text.isBlank = false := by
    have methods : ∀ text ∈ view.methods, text.toList.all Text.isBlank = false := by
      intro text member
      obtain ⟨method, _, rfl⟩ := List.mem_map.1 member
      exact method.methodText_filled table
    obtain ⟨part, listed, some⟩ := exists_filled_part methods filled
    rw [Text.all_blank_joinLines, List.all_eq_false]
    exact ⟨part.toList, List.mem_map_of_mem listed, by simp [some]⟩
  rw [toList_text]
  constructor
  · refine ⟨_, ?_, Text.exists_filled nonblank (Text.all_blank_split _), inside⟩
    rw [Text.split_append, Text.split_of_not_mem header]
    rfl
  · have read := Text.isLines_lines (Text.joinLines (view.body.map String.toList))
    have bare : view.header.toList.getLast? ≠ some '\r' := by
      rw [header_ends]
      decide
    exact ⟨_, Text.lines_eq_iff.2 (.feed header bare read),
      Text.exists_filled nonblank read.all_blank, read.inside inside⟩

def scribbled : ClassView :=
  described {}
    { name := "ReadyWaiter"
      bases := [{ module := "botocore.waiter", name := "Waiter" }]
      methods :=
        [{ name := "wait"
           returnType := .builtin "None"
           docstring := "Waits.\r\n\r\n  until\rready\n\n\tor not\n" }] }
    " \n " ["delay: int"]

theorem scribbled_isBlock :
    ('\n' ∉ "ReadyWaiter".toList ∧ '\n' ∉ "Waiter".toList ∧ '\n' ∉ "delay: int".toList ∧
      Text.isEmptyOrBlank "delay: int" = false) ∧
    scribbled.header = "class ReadyWaiter(Waiter):" ∧
    (∃ body, Text.split '\n' scribbled.text.toList = scribbled.header.toList :: body ∧
      Text.IsBody body) ∧
    ∃ body, Text.lines scribbled.text.toList = scribbled.header.toList :: body ∧
      Text.IsBody body := by
  refine ⟨by decide, by decide, ?_⟩
  exact text_isBlock {} _ " \n " ["delay: int"] (by decide) (by decide) (by decide) (by decide)

example : (described {} { name := "Empty" } "" []).text = "class Empty:\n    pass" := by
  cbv

end ClassView

end ServiceStubs
