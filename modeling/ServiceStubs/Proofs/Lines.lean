import Mathlib.Data.List.DropRight
import ServiceStubs.Text
/-!
The pieces of a text between separators. No piece has a separator in it, so a
text without one is its own only piece, and a separator between two texts keeps
their pieces apart.
-/

namespace ServiceStubs.Text

variable {separator : Char}

theorem split_ne_nil (separator : Char) (text : List Char) : split separator text ≠ [] := by
  cases text with
  | nil => simp [split]
  | cons c rest =>
      rw [split]
      split
      · simp
      · split <;> simp

theorem split_append (separator : Char) (before after : List Char) :
    split separator (before ++ separator :: after) =
      split separator before ++ split separator after := by
  induction before with
  | nil => simp [split]
  | cons c rest ih =>
      rw [List.cons_append, split, split]
      by_cases separates : c = separator
      · simp [separates, ih]
      · simp only [if_neg separates, ih]
        cases pieces : split separator rest with
        | nil => exact absurd pieces (split_ne_nil separator rest)
        | cons piece others => rfl

theorem split_of_not_mem {piece : List Char} (absent : separator ∉ piece) :
    split separator piece = [piece] := by
  induction piece with
  | nil => rfl
  | cons c rest ih =>
      rw [List.mem_cons, not_or] at absent
      rw [split, if_neg (Ne.symm absent.1), ih absent.2]

theorem not_mem_of_mem_split {text piece : List Char} (member : piece ∈ split separator text) :
    separator ∉ piece := by
  induction text generalizing piece with
  | nil => simp_all [split]
  | cons c rest ih =>
      rw [split] at member
      split at member
      · rcases List.mem_cons.1 member with rfl | later
        · exact List.not_mem_nil
        · exact ih later
      · rename_i other
        cases pieces : split separator rest with
        | nil => exact absurd pieces (split_ne_nil separator rest)
        | cons first others =>
            rw [pieces] at member ih
            rcases List.mem_cons.1 member with rfl | later
            · rw [List.mem_cons, not_or]
              exact ⟨Ne.symm other, ih List.mem_cons_self⟩
            · exact ih (List.mem_cons_of_mem first later)

end ServiceStubs.Text

/-!
Texts as lines. No line holds a line feed, and lines that do not end in a
carriage return are read back from a text in which each has a line feed behind
it. When lines are joined, the blanks at the end of the text are those of the
last line, and where there is nothing else in that line, those before it too.
-/

namespace ServiceStubs.Text

def Trimmed (cs : List Char) : Prop :=
  ∀ c ∈ cs.getLast?, isBlank c = false

@[simp] theorem isBlank_feed : isBlank '\n' = true :=
  rfl

@[simp] theorem isBlank_return : isBlank '\r' = true :=
  rfl

theorem trimEnd_eq_rdropWhile (cs : List Char) : trimEnd cs = cs.rdropWhile isBlank := by
  induction cs with
  | nil => rfl
  | cons c rest ih =>
      rw [trimEnd, ih, List.rdropWhile, List.rdropWhile, List.reverse_cons, List.dropWhile_append]
      cases rest.reverse.dropWhile isBlank with
      | nil => cases blank : isBlank c <;> simp [blank]
      | cons last front => simp

theorem trimmed_iff {cs : List Char} : Trimmed cs ↔ cs.rdropWhile isBlank = cs := by
  rcases List.eq_nil_or_concat cs with rfl | ⟨front, last, rfl⟩
  · simp [Trimmed]
  · simp [Trimmed, List.rdropWhile_eq_self_iff]

theorem trimmed_rdropWhile (cs : List Char) : Trimmed (cs.rdropWhile isBlank) :=
  trimmed_iff.2 (List.rdropWhile_idempotent isBlank cs)

theorem Trimmed.append {cs : List Char} (trimmed : Trimmed cs) (filled : cs ≠ [])
    (before : List Char) : Trimmed (before ++ cs) := by
  unfold Trimmed
  rw [List.getLast?_append_of_ne_nil before filled]
  exact trimmed

/-- The text is made of these lines. Each has a line feed behind it, or a carriage return and a line
feed, in which case the return is not the line's; only the last line may end with the text. -/
inductive IsLines : List Char → List (List Char) → Prop
  | nil : IsLines [] []
  | last {line : List Char} (filled : line ≠ []) (single : '\n' ∉ line) : IsLines line [line]
  | feed {line cs : List Char} {texts : List (List Char)} (single : '\n' ∉ line)
      (bare : line.getLast? ≠ some '\r') (later : IsLines cs texts) :
      IsLines (line ++ '\n' :: cs) (line :: texts)
  | pair {line cs : List Char} {texts : List (List Char)} (single : '\n' ∉ line)
      (later : IsLines cs texts) : IsLines (line ++ '\r' :: '\n' :: cs) (line :: texts)

section Lines
variable {line cs : List Char}

theorem lines_cons {c : Char} {others : List (List Char)} (feed : c ≠ '\n')
    (pair : c = '\r' → cs.head? ≠ some '\n') (read : lines cs = line :: others) :
    lines (c :: cs) = (c :: line) :: others := by
  rw [lines, read]
  · exact feed
  · rintro rest rfl rfl
    exact pair rfl rfl

/-- Characters that are no line feeds are read into the first line of what follows them. -/
theorem lines_append {first : List Char} {others : List (List Char)} (single : '\n' ∉ line)
    (apart : line.getLast? = some '\r' → cs.head? ≠ some '\n')
    (read : lines cs = first :: others) : lines (line ++ cs) = (line ++ first) :: others := by
  induction line with
  | nil => exact read
  | cons c line ih =>
      rw [List.mem_cons, not_or] at single
      obtain ⟨feed, single⟩ := single
      cases line with
      | nil =>
          refine lines_cons (Ne.symm feed) ?_ (ih single nofun)
          rintro rfl
          exact apart rfl
      | cons d line =>
          refine lines_cons (Ne.symm feed) (fun _ => ?_) (ih single (by simpa using apart))
          simpa [eq_comm] using (not_or.1 (List.mem_cons.not.1 single)).1

theorem isLines_lines (cs : List Char) : IsLines cs (lines cs) := by
  fun_induction lines cs with
  | case1 => exact .nil
  | case2 rest ih => exact .feed List.not_mem_nil nofun ih
  | case3 rest ih => exact .pair List.not_mem_nil ih
  | case4 c rest feed _ read ih =>
      rw [read] at ih
      cases ih
      exact .last (List.cons_ne_nil c []) (by simpa using Ne.symm feed)
  | case5 c rest feed pair first others read ih =>
      have single {line : List Char} (later : '\n' ∉ line) : '\n' ∉ c :: line := by
        rw [List.mem_cons, not_or]
        exact ⟨Ne.symm feed, later⟩
      rw [read] at ih
      cases ih with
      | last _ later => exact .last (List.cons_ne_nil _ _) (single later)
      | pair later below => exact .pair (single later) below
      | @feed first below _ later bare further =>
          refine .feed (single later) ?_ further
          cases first with
          | nil => exact fun same => pair below (by simpa using same) rfl
          | cons d first => simpa using bare

/-- There is one way to read a text as lines. -/
theorem lines_eq_iff {texts : List (List Char)} : lines cs = texts ↔ IsLines cs texts := by
  refine ⟨fun read => read ▸ isLines_lines cs, fun read => ?_⟩
  induction read with
  | nil => rfl
  | last filled single =>
      obtain ⟨front, c, rfl⟩ := (List.eq_nil_or_concat' _).resolve_left filled
      rw [List.mem_append, not_or, List.mem_singleton] at single
      have read : lines [c] = [[c]] := by
        rw [lines, lines]
        · exact Ne.symm single.2
        · nofun
      exact lines_append single.1 (fun _ => by simpa [eq_comm] using single.2) read
  | @feed line cs texts single bare _ ih =>
      have read : lines ('\n' :: cs) = [] :: texts := by rw [lines, ih]
      rw [lines_append single (fun ends => absurd ends bare) read, List.append_nil]
  | @pair line cs texts single _ ih =>
      have read : lines ('\r' :: '\n' :: cs) = [] :: texts := by rw [lines, ih]
      rw [lines_append single (fun _ => by simp) read, List.append_nil]

theorem IsLines.not_mem {texts : List (List Char)} (read : IsLines cs texts)
    (member : line ∈ texts) : '\n' ∉ line := by
  induction read with
  | nil => cases member
  | last _ single =>
      rw [List.mem_singleton.1 member]
      exact single
  | feed single _ _ ih | pair single _ ih =>
      rcases List.mem_cons.1 member with rfl | later
      · exact single
      · exact ih later

/-- What stands between the lines is blank, so a text is blank when its lines are. -/
theorem IsLines.all_blank {texts : List (List Char)} (read : IsLines cs texts) :
    (texts.all fun line => line.all isBlank) = cs.all isBlank := by
  induction read with
  | nil => rfl
  | last => simp
  | feed _ _ _ ih => simp [ih]
  | pair _ _ ih => simp [ih]

end Lines

section Joined
variable {texts : List (List Char)}

theorem joinLines_concat (some : texts ≠ []) (line : List Char) :
    joinLines (texts ++ [line]) = joinLines texts ++ '\n' :: line := by
  induction texts with
  | nil => exact absurd rfl some
  | cons first rest ih =>
      cases rest with
      | nil => rfl
      | cons second others =>
          have later := ih (List.cons_ne_nil second others)
          rw [List.cons_append] at later
          simp [joinLines, later]

theorem joinLines_feed (some : texts ≠ []) :
    joinLines texts ++ ['\n'] = texts.flatMap (· ++ ['\n']) := by
  induction texts with
  | nil => exact absurd rfl some
  | cons first rest ih =>
      cases rest with
      | nil => simp [joinLines]
      | cons second others =>
          rw [List.flatMap_cons, ← ih (List.cons_ne_nil second others)]
          simp [joinLines]

theorem joinLines_suffix (before : List (List Char)) (line : List Char) :
    ∃ front, joinLines (before ++ [line]) = front ++ line := by
  by_cases some : before = []
  · exact ⟨[], by rw [some, List.nil_append, joinLines, List.nil_append]⟩
  · exact ⟨joinLines before ++ ['\n'], by rw [joinLines_concat some, List.append_assoc]; rfl⟩

/-- From the end: a line with nothing in it takes along the line feed before it, and any other one
keeps its last character. -/
theorem rdropWhile_joinLines (trimmed : ∀ line ∈ texts, Trimmed line) :
    (joinLines texts).rdropWhile isBlank = joinLines (texts.rdropWhile List.isEmpty) := by
  induction texts using List.reverseRecOn with
  | nil => rfl
  | append_singleton before line ih =>
      have earlier := ih fun line member => trimmed line (List.mem_append_left _ member)
      by_cases empty : line.isEmpty
      · rw [List.rdropWhile_concat_pos _ _ _ empty, ← earlier]
        obtain rfl := List.isEmpty_iff.1 empty
        by_cases some : before = []
        · rw [some]
          rfl
        · rw [joinLines_concat some, List.rdropWhile_concat_pos _ _ _ isBlank_feed]
      · rw [List.rdropWhile_concat_neg _ _ _ empty]
        obtain ⟨front, joined⟩ := joinLines_suffix before line
        have last := trimmed line (List.mem_append_right before List.mem_cons_self)
        rw [joined]
        exact trimmed_iff.1 (last.append (List.isEmpty_iff.not.1 empty) front)

/-- Lines of that kind are read back from the text that has each of them with a line feed. -/
theorem lines_flatMap_feed (single : ∀ line ∈ texts, '\n' ∉ line)
    (trimmed : ∀ line ∈ texts, Trimmed line) : lines (texts.flatMap (· ++ ['\n'])) = texts := by
  rw [lines_eq_iff]
  induction texts with
  | nil => exact .nil
  | cons line rest ih =>
      rw [List.forall_mem_cons] at single trimmed
      have bare : line.getLast? ≠ some '\r' := by
        intro ends
        have := trimmed.1 '\r' ends
        simp at this
      rw [List.flatMap_cons, List.append_assoc, List.singleton_append]
      exact .feed single.1 bare (ih single.2 trimmed.2)

end Joined

/-!
What is left of a text that is written to a file: its lines up to the last one
that is not blank, each without the blanks at its end and with a line feed
behind it. Such a text is read back as just these lines, so writing it again
changes nothing.
-/

/-- The lines up to the last one that is not blank, without the blanks at their ends. -/
def keptLines (cs : List Char) : List (List Char) :=
  ((lines cs).rdropWhile fun line => line.all isBlank).map (List.rdropWhile isBlank)

structure Tidy (texts : List (List Char)) : Prop where
  single : ∀ line ∈ texts, '\n' ∉ line
  trimmed : ∀ line ∈ texts, Trimmed line
  filled : ∀ line ∈ texts.getLast?, line ≠ []

theorem isEmpty_rdropWhile (line : List Char) :
    (line.rdropWhile isBlank).isEmpty = line.all isBlank := by
  rw [Bool.eq_iff_iff, List.isEmpty_iff, List.rdropWhile_eq_nil_iff, List.all_eq_true]

/-- Trimming the lines first and then dropping the empty ones comes to the same. -/
theorem keptLines_eq (cs : List Char) :
    keptLines cs = ((lines cs).map trimEnd).rdropWhile List.isEmpty := by
  have same : List.isEmpty ∘ List.rdropWhile isBlank = fun line => line.all isBlank :=
    funext isEmpty_rdropWhile
  rw [funext trimEnd_eq_rdropWhile, keptLines, List.rdropWhile, List.rdropWhile,
    ← List.map_reverse, List.dropWhile_map, same, List.map_reverse]

theorem tidy_keptLines (cs : List Char) : Tidy (keptLines cs) where
  single line member := by
    obtain ⟨given, kept, rfl⟩ := List.mem_map.1 member
    have listed := (List.rdropWhile_prefix _ _).subset kept
    exact fun feed =>
      (isLines_lines cs).not_mem listed ((List.rdropWhile_prefix _ _).subset feed)
  trimmed line member := by
    obtain ⟨given, _, rfl⟩ := List.mem_map.1 member
    exact trimmed_rdropWhile given
  filled line last := by
    rw [keptLines_eq] at last
    obtain ⟨filled, rfl⟩ := List.mem_getLast?_eq_getLast last
    exact fun empty => List.rdropWhile_last_not _ _ filled (List.isEmpty_iff.2 empty)

theorem Tidy.keptLines_eq {texts : List (List Char)} (tidy : Tidy texts) :
    keptLines (texts.flatMap (· ++ ['\n'])) = texts := by
  have trimmed : texts.map trimEnd = texts := by
    refine (List.map_congr_left fun line member => ?_).trans texts.map_id
    exact (trimEnd_eq_rdropWhile line).trans (trimmed_iff.1 (tidy.trimmed line member))
  rw [Text.keptLines_eq, lines_flatMap_feed tidy.single tidy.trimmed, trimmed,
    List.rdropWhile_eq_self_iff]
  intro some empty
  exact tidy.filled _ (List.getLast?_eq_some_getLast some) (List.isEmpty_iff.1 empty)

theorem keptLines_eq_nil_iff {cs : List Char} : keptLines cs = [] ↔ ∀ c ∈ cs, isBlank c := by
  rw [keptLines, List.map_eq_nil_iff, List.rdropWhile_eq_nil_iff, ← List.all_eq_true,
    (isLines_lines cs).all_blank, List.all_eq_true]

theorem normalizedLines_eq (cs : List Char) : normalizedLines cs = joinLines (keptLines cs) := by
  have trimmed : ∀ line ∈ (lines cs).map trimEnd, Trimmed line := by
    rintro _ member
    obtain ⟨line, _, rfl⟩ := List.mem_map.1 member
    rw [trimEnd_eq_rdropWhile]
    exact trimmed_rdropWhile line
  rw [normalizedLines, trimEnd_eq_rdropWhile, rdropWhile_joinLines trimmed, keptLines_eq]

theorem Tidy.exists_last {texts : List (List Char)} (tidy : Tidy texts) (some : texts ≠ []) :
    ∃ before line last, texts = before ++ [line ++ [last]] ∧ isBlank last = false := by
  obtain ⟨before, text, rfl⟩ := (List.eq_nil_or_concat' texts).resolve_left some
  obtain ⟨line, last, rfl⟩ :=
    (List.eq_nil_or_concat' text).resolve_left (tidy.filled text List.getLast?_concat)
  have trimmed := tidy.trimmed _ (List.mem_append_right before List.mem_cons_self)
  exact ⟨before, line, last, rfl, trimmed last List.getLast?_concat⟩

theorem Tidy.joinLines_ne_nil {texts : List (List Char)} (tidy : Tidy texts) (some : texts ≠ []) :
    joinLines texts ≠ [] := by
  obtain ⟨before, line, last, rfl, _⟩ := tidy.exists_last some
  obtain ⟨front, joined⟩ := joinLines_suffix before (line ++ [last])
  rw [joined]
  simp

theorem toList_normalize (text : String) :
    (normalize text).toList = (keptLines text.toList).flatMap (· ++ ['\n']) := by
  rw [normalize, normalizedLines_eq]
  by_cases some : keptLines text.toList = []
  · rw [some]
    rfl
  · rw [← joinLines_feed some]
    cases joined : joinLines (keptLines text.toList) with
    | nil => exact absurd joined ((tidy_keptLines _).joinLines_ne_nil some)
    | cons c rest => exact String.toList_ofList

/-- The text that is written has the kept lines of the given one, each with a line feed behind
it. -/
theorem normalize_exact (text : String) :
    IsLines text.toList (lines text.toList) ∧
    (normalize text).toList = (keptLines text.toList).flatMap (· ++ ['\n']) ∧
    lines (normalize text).toList = keptLines text.toList ∧
    (∀ line ∈ lines (normalize text).toList, Trimmed line) ∧
    (normalize text ≠ "" → ∃ front last, (normalize text).toList = front ++ [last, '\n'] ∧
      isBlank last = false) ∧
    (normalize text = "" ↔ ∀ c ∈ text.toList, isBlank c) ∧
    normalize (normalize text) = normalize text := by
  have tidy := tidy_keptLines text.toList
  have read : lines (normalize text).toList = keptLines text.toList := by
    rw [toList_normalize, lines_flatMap_feed tidy.single tidy.trimmed]
  have nothing : normalize text = "" ↔ keptLines text.toList = [] := by
    rw [← String.toList_eq_nil_iff, toList_normalize]
    cases keptLines text.toList <;> simp
  refine ⟨isLines_lines text.toList, toList_normalize text, read, ?_, ?_, ?_, ?_⟩
  · rw [read]
    exact tidy.trimmed
  · intro some
    obtain ⟨before, line, last, same, filled⟩ := tidy.exists_last (nothing.not.1 some)
    refine ⟨before.flatMap (· ++ ['\n']) ++ line, last, ?_, filled⟩
    rw [toList_normalize, same]
    simp
  · rw [nothing, keptLines_eq_nil_iff]
  · rw [← String.toList_inj, toList_normalize, toList_normalize text, tidy.keptLines_eq]

/-- A carriage return within a line stays, one before a line feed does not. -/
example : normalize "a \t\r\n\r\n  b\rc\r\r\n \n\t" = "a\n\n  b\rc\n" := by
  cbv

end ServiceStubs.Text
