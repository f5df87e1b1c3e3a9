import Mathlib.Data.List.TakeWhile
import ServiceStubs.Disk
import ServiceStubs.Proofs.Lines
/-!
The names a path consists of. Slashes that separate nothing and components that
stand for the folder they are in are no names. Taking the parent of a path drops
its last name, and joining a name adds one.
-/

namespace ServiceStubs

namespace FilePath

def isName (component : String) : Bool :=
  component ≠ "" && component ≠ "."

def namesIn (text : List Char) : List String :=
  ((Text.split '/' text).map String.ofList).filter isName

/-- The names a path leads along, among them "..". -/
def names (path : FilePath) : List String :=
  (Disk.components path).filter isName

def endsInName (path : FilePath) : Bool :=
  (Disk.components path).getLast?.any isName

theorem names_eq (path : FilePath) : path.names = namesIn path.text.toList := rfl

theorem isName_iff {component : List Char} :
    isName (String.ofList component) = true ↔ component ≠ [] ∧ component ≠ ['.'] := by
  have empty : String.ofList component = "" ↔ component = [] := by
    rw [← String.toList_inj, String.toList_ofList]
    rfl
  have dot : String.ofList component = "." ↔ component = ['.'] := by
    rw [← String.toList_inj, String.toList_ofList]
    rfl
  simp [isName, empty, dot]

theorem namesIn_append (before after : List Char) :
    namesIn (before ++ '/' :: after) = namesIn before ++ namesIn after := by
  rw [namesIn, Text.split_append, List.map_append, List.filter_append]
  rfl

theorem namesIn_of_not_mem {piece : List Char} (absent : '/' ∉ piece) :
    namesIn piece = if isName (String.ofList piece) then [String.ofList piece] else [] := by
  rw [namesIn, Text.split_of_not_mem absent]
  exact List.filter_cons

theorem namesIn_reverse_trimTail (tail : List Char) :
    namesIn (trimTail tail).reverse = namesIn tail.reverse := by
  fun_induction trimTail tail with
  | case1 rest ih =>
      rw [ih, List.reverse_cons, namesIn_append, show namesIn [] = [] from rfl, List.append_nil]
  | case2 rest ih =>
      rw [ih]
      simp only [List.reverse_cons, List.append_assoc, List.singleton_append, namesIn_append,
        show namesIn [] = [] from rfl, show namesIn ['.'] = [] from rfl]
  | case3 => rfl

inductive Trimmed : List Char → Prop
  | empty : Trimmed []
  | dot : Trimmed ['.']
  | name {last : List Char} (whole : '/' ∉ last) (named : isName (String.ofList last.reverse)) :
      Trimmed last
  | names {last before : List Char} (whole : '/' ∉ last)
      (named : isName (String.ofList last.reverse)) : Trimmed (last ++ '/' :: before)

theorem trimmed_trimTail (tail : List Char) : Trimmed (trimTail tail) := by
  fun_induction trimTail tail with
  | case1 rest ih => exact ih
  | case2 rest ih => exact ih
  | case3 rest slash dotted =>
      have whole : '/' ∉ rest.takeWhile (· != '/') := fun member => by
        simpa using List.mem_takeWhile_imp member
      have parts := List.takeWhile_append_dropWhile (p := (· != '/')) (l := rest)
      by_cases none : rest.takeWhile (· != '/') = []
      · cases rest with
        | nil => exact .empty
        | cons c others =>
            by_cases start : c = '/'
            · exact (slash others (by rw [start])).elim
            · simp [start] at none
      · cases after : rest.dropWhile (· != '/') with
        | nil =>
            rw [after, List.append_nil] at parts
            by_cases dot : rest = ['.']
            · exact dot ▸ .dot
            · rw [parts] at whole
              refine .name whole (isName_iff.2 ⟨?_, ?_⟩)
              · simpa [parts] using none
              · exact fun same => dot (by simpa using congrArg List.reverse same)
        | cons c before =>
            have slashed : c = '/' := by
              have head := List.head_dropWhile_not (p := (· != '/')) (l := rest) (by simp [after])
              simpa [after] using head
            rw [after, slashed] at parts
            rw [← parts]
            refine .names whole (isName_iff.2 ⟨by simpa using none, fun same => ?_⟩)
            have dot : rest.takeWhile (· != '/') = ['.'] := by simpa using congrArg List.reverse same
            rw [dot] at parts
            exact dotted before parts.symm

theorem trimTail_suffix (tail : List Char) : trimTail tail <:+ tail := by
  fun_induction trimTail tail with
  | case1 rest ih => exact ih.trans (List.suffix_cons '/' rest)
  | case2 rest ih => exact ih.trans (List.suffix_cons '.' _)
  | case3 rest => exact List.suffix_refl rest

def parentOf (path : FilePath) (before : List Char) : FilePath :=
  match trimTail before with
  | [] => ⟨if path.isAbsolute then "/" else ""⟩
  | kept => ⟨String.ofList kept.reverse⟩

theorem names_parentOf (path : FilePath) (before : List Char) :
    (path.parentOf before).names = namesIn before.reverse := by
  rw [← namesIn_reverse_trimTail, names_eq, parentOf]
  cases trimTail before with
  | nil => cases path.isAbsolute <;> rfl
  | cons c rest => simp only [String.toList_ofList]

theorem isAbsoluteText_eq (text : List Char) : isAbsoluteText text = (text.head? == some '/') := by
  unfold isAbsoluteText
  split
  · rfl
  · rename_i other
    cases text with
    | nil => rfl
    | cons c rest => simpa using fun same : c = '/' => other rest (by rw [same])

theorem reverse_split_last (last before : List Char) :
    (last ++ '/' :: before).reverse = before.reverse ++ '/' :: last.reverse := by
  simp

theorem dropWhile_of_not_mem {last : List Char} (whole : '/' ∉ last) (before : List Char) :
    (last ++ before).dropWhile (· != '/') = before.dropWhile (· != '/') := by
  apply List.dropWhile_append_of_pos
  intro c member
  simpa using fun same : c = '/' => whole (same ▸ member)

theorem parent_eq (path : FilePath) :
    path.parent = if trimTail path.text.toList.reverse = [] then none
      else some (path.parentOf ((trimTail path.text.toList.reverse).dropWhile (· != '/'))) := by
  rw [parent, splitLast]
  cases trimTail path.text.toList.reverse <;> rfl

namespace Trimmed
variable {tail : List Char}

theorem ends (trimmed : Trimmed tail) : namesIn tail.reverse = [] ∨
    ((Text.split '/' tail.reverse).map String.ofList).getLast?.any isName = true := by
  cases trimmed with
  | empty => exact Or.inl rfl
  | dot => exact Or.inl rfl
  | name whole named =>
      refine Or.inr ?_
      rw [Text.split_of_not_mem (by simpa using whole)]
      simpa using named
  | @names last before whole named =>
      refine Or.inr ?_
      have one : Text.split '/' last.reverse = [last.reverse] :=
        Text.split_of_not_mem (by simpa using whole)
      rw [reverse_split_last, Text.split_append, one]
      simpa using named

theorem namesIn_dropWhile (trimmed : Trimmed tail) :
    namesIn (tail.dropWhile (· != '/')).reverse = (namesIn tail.reverse).dropLast := by
  cases trimmed with
  | empty => rfl
  | dot => rfl
  | name whole named =>
      have nothing := dropWhile_of_not_mem whole []
      have whole : '/' ∉ tail.reverse := by simpa using whole
      rw [List.append_nil] at nothing
      rw [nothing, namesIn_of_not_mem whole, if_pos named]
      rfl
  | @names last before whole named =>
      have reversed : '/' ∉ last.reverse := by simpa using whole
      rw [dropWhile_of_not_mem whole, reverse_split_last, namesIn_append,
        namesIn_of_not_mem reversed, if_pos named, List.dropLast_concat]
      show namesIn ('/' :: before).reverse = _
      rw [List.reverse_cons, namesIn_append, show namesIn [] = [] from rfl, List.append_nil]

theorem length_dropWhile (trimmed : Trimmed tail) (nonempty : tail ≠ []) :
    (tail.dropWhile (· != '/')).length < tail.length := by
  cases trimmed with
  | empty => exact absurd rfl nonempty
  | dot => decide
  | name whole named =>
      have nothing := dropWhile_of_not_mem whole []
      rw [List.append_nil] at nothing
      rw [nothing]
      exact List.length_pos_iff.2 nonempty
  | @names last before whole named =>
      have some : last ≠ [] := by simpa using (isName_iff.1 named).1
      rw [dropWhile_of_not_mem whole, List.length_append]
      exact Nat.lt_add_of_pos_left (List.length_pos_iff.2 some)

end Trimmed

variable {path folder : FilePath}

theorem names_trimTail (path : FilePath) :
    namesIn (trimTail path.text.toList.reverse).reverse = path.names := by
  rw [namesIn_reverse_trimTail, List.reverse_reverse, names_eq]

theorem names_of_parent_none (rootless : path.parent = none) : path.names = [] := by
  rw [parent_eq] at rootless
  split at rootless
  · rename_i nothing
    rw [← names_trimTail, nothing]
    rfl
  · cases rootless

theorem names_parent (found : path.parent = some folder) : folder.names = path.names.dropLast := by
  rw [parent_eq] at found
  split at found
  · cases found
  · cases found
    rw [names_parentOf, ← names_trimTail, (trimmed_trimTail _).namesIn_dropWhile]

theorem parent_ends (found : path.parent = some folder) :
    folder.names = [] ∨ folder.endsInName = true := by
  rw [parent_eq] at found
  split at found
  · cases found
  · cases found
    rw [names_eq, endsInName, Disk.components, parentOf]
    split
    · cases path.isAbsolute <;> exact Or.inl rfl
    · rw [String.toList_ofList]
      exact (trimmed_trimTail _).ends

/-- The text of a parent is the beginning of the text. -/
theorem parent_prefix (found : path.parent = some folder) :
    folder.text.toList <+: path.text.toList ∧ folder.isAbsolute = path.isAbsolute := by
  rw [parent_eq] at found
  split at found
  · cases found
  · cases found
    have trimmed := trimTail_suffix path.text.toList.reverse
    unfold parentOf
    split
    · cases absolute : path.isAbsolute with
      | false => exact ⟨List.nil_prefix, rfl⟩
      | true =>
          refine ⟨?_, rfl⟩
          rw [isAbsolute, isAbsoluteText_eq] at absolute
          obtain ⟨rest, text⟩ := List.head?_eq_some_iff.1 (by simpa using absolute)
          exact ⟨rest, text.symm⟩
    · rename_i kept
      have part := ((trimTail_suffix _).trans (List.dropWhile_suffix (· != '/'))).trans trimmed
      have start := List.reverse_prefix.2 part
      rw [List.reverse_reverse] at start
      refine ⟨by rwa [String.toList_ofList], ?_⟩
      rw [isAbsolute, isAbsolute, isAbsoluteText_eq, isAbsoluteText_eq, String.toList_ofList]
      obtain ⟨rest, text⟩ := start
      have first := congrArg List.head? text
      rw [List.head?_append, Option.or_of_isSome (by simpa using kept)] at first
      rw [first]

theorem parent_length (found : path.parent = some folder) :
    folder.text.toList.length < path.text.toList.length := by
  rw [parent_eq] at found
  split at found
  · cases found
  · rename_i present
    cases found
    have shorter := (trimmed_trimTail _).length_dropWhile present
    have trimmed := (trimTail_suffix path.text.toList.reverse).length_le
    rw [List.length_reverse] at trimmed
    unfold parentOf
    split
    · cases absolute : path.isAbsolute with
      | false => exact Nat.lt_of_lt_of_le (Nat.zero_lt_of_lt shorter) trimmed
      | true =>
          rw [isAbsolute, isAbsoluteText_eq] at absolute
          obtain ⟨rest, text⟩ := List.head?_eq_some_iff.1 (by simpa using absolute)
          have more : rest ≠ [] := by
            rintro rfl
            rw [text] at present
            exact present (by simp [trimTail])
          rw [text, List.length_cons]
          exact Nat.succ_lt_succ (List.length_pos_iff.2 more)
    · rw [String.toList_ofList, List.length_reverse]
      have kept := (trimTail_suffix
        ((trimTail path.text.toList.reverse).dropWhile (· != '/'))).length_le
      omega

/-! ## Joining -/

variable {part : FilePath}

theorem isAbsolute_join (base : FilePath) (relative : part.isAbsolute = false) :
    (base.join part).isAbsolute = base.isAbsolute := by
  have text : ∃ rest, (base.join part).text.toList = base.text.toList ++ rest ∧
      (base.text.toList = [] → rest = part.text.toList) := by
    by_cases ends : base.text.toList.isEmpty || base.text.toList.getLast? == some '/'
    · refine ⟨part.text.toList, ?_, fun _ => rfl⟩
      simp only [join, relative, ends, if_true, Bool.false_eq_true, if_false, String.toList_ofList]
    · refine ⟨'/' :: part.text.toList, ?_, fun nothing => absurd nothing ?_⟩
      · simp only [join, relative, ends, Bool.false_eq_true, if_false, String.toList_ofList]
      · intro nothing
        simp [nothing] at ends
  obtain ⟨rest, whole, alone⟩ := text
  rw [isAbsolute, isAbsolute, whole]
  cases start : base.text.toList with
  | nil =>
      rw [alone start]
      exact relative
  | cons c more => rw [List.cons_append, isAbsoluteText_eq, isAbsoluteText_eq]; rfl

/-- The components of the part stand at the end, after the names of the base. -/
theorem components_join (base : FilePath) (relative : part.isAbsolute = false) :
    ∃ lead, Disk.components (base.join part) = lead ++ Disk.components part ∧
      lead.filter isName = base.names := by
  by_cases ends : base.text.toList.isEmpty || base.text.toList.getLast? == some '/'
  · have text : (base.join part).text.toList = base.text.toList ++ part.text.toList := by
      simp only [join, relative, ends, if_true, Bool.false_eq_true, if_false, String.toList_ofList]
    rw [Disk.components, text, names_eq]
    rcases List.eq_nil_or_concat base.text.toList with nothing | ⟨before, last, whole⟩
    · rw [nothing]
      exact ⟨[], rfl, rfl⟩
    · have slash : last = '/' := by simpa [whole] using ends
      rw [whole, slash, List.concat_eq_append, List.append_assoc, List.singleton_append,
        Text.split_append, List.map_append, namesIn_append, show namesIn [] = [] from rfl,
        List.append_nil]
      exact ⟨_, rfl, rfl⟩
  · have text : (base.join part).text.toList =
        base.text.toList ++ '/' :: part.text.toList := by
      simp only [join, relative, ends, Bool.false_eq_true, if_false, String.toList_ofList]
    rw [Disk.components, text, Text.split_append, List.map_append]
    exact ⟨_, rfl, rfl⟩

theorem names_join (base : FilePath) (relative : part.isAbsolute = false) :
    (base.join part).names = base.names ++ part.names := by
  obtain ⟨lead, components, named⟩ := components_join base relative
  rw [names, components, List.filter_append, named]
  rfl

theorem endsInName_join (base : FilePath) (relative : part.isAbsolute = false)
    (ends : part.endsInName = true) : (base.join part).endsInName = true := by
  obtain ⟨lead, components, named⟩ := components_join base relative
  obtain ⟨last, found, isName⟩ := (Option.any_eq_true _ _).1 ends
  rw [endsInName, components, List.getLast?_append, found]
  exact isName

end FilePath

end ServiceStubs
