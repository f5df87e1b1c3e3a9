import Mathlib.Data.List.Infix
import ServiceStubs.Proofs.Places
/-!
Disks whose entries all lie in folders. On such a disk what an operation does at
a path depends only on the entries along the way to one place, which stays the
same while folders are added.
-/

namespace ServiceStubs.Disk

variable {disk : Disk} {place other : Place} {entry : DiskEntry}

theorem entry?_of_isOutside (outside : isOutside place = true) :
    disk.entry? place = some .folder := by
  unfold entry?
  exact if_pos outside

/-- Nobody made what is outside, so what is missing or a file is inside. -/
theorem inside_of_not_folder (different : disk.entry? place ≠ some .folder) :
    isOutside place = false := by
  cases outside : isOutside place with
  | false => rfl
  | true => exact absurd (entry?_of_isOutside outside) different

theorem lookup_filter (entries : List (Place × DiskEntry)) (place other : Place) :
    (entries.filter (·.1 ≠ place)).lookup other =
      if other = place then none else entries.lookup other := by
  induction entries with
  | nil => simp
  | cons first rest ih =>
      obtain ⟨key, value⟩ := first
      by_cases here : key = place
      · subst here
        rw [List.filter_cons_of_neg (by simp), ih, List.lookup_cons]
        by_cases same : other = key
        · simp [same]
        · rw [beq_false_of_ne same]
      · rw [List.filter_cons_of_pos (by simpa using here), List.lookup_cons, List.lookup_cons, ih]
        by_cases same : other = key
        · subst same
          simp [here]
        · rw [beq_false_of_ne same]

theorem entry?_set (inside : isOutside place = false) (other : Place) :
    entry? (disk.set place entry) other =
      if other = place then some entry else disk.entry? other := by
  unfold entry? set
  by_cases same : other = place
  · subst same
    simp [inside]
  · rw [List.lookup_cons, beq_false_of_ne same]
    simp only [lookup_filter, if_neg same]

theorem entry?_erase (inside : isOutside place = false) (other : Place) :
    entry? (disk.erase place) other = if other = place then none else disk.entry? other := by
  unfold entry? erase
  rw [lookup_filter]
  by_cases same : other = place
  · subst same
    simp [inside]
  · simp only [if_neg same]

/-- Everything lies in a folder and has a name of a possible length. -/
def IsTree (disk : Disk) : Prop :=
  ∀ place name entry, disk.entry? (place ++ [name]) = some entry →
    disk.entry? place = some .folder ∧ name.utf8ByteSize ≤ nameLimit

/-- Only what there is an entry for needs to be looked at. -/
theorem isTree_of_entries (entries : ∀ item ∈ disk.entries,
    disk.entry? item.1.dropLast = some .folder ∧
    ∀ name ∈ item.1, name.utf8ByteSize ≤ nameLimit) : disk.IsTree := by
  intro place name entry present
  cases outside : isOutside (place ++ [name]) with
  | true =>
      simp only [isOutside, List.all_append, List.all_cons, List.all_nil, Bool.and_true,
        Bool.and_eq_true, Bool.or_eq_true, beq_iff_eq] at outside
      obtain ⟨above, up | root⟩ := outside
      · exact ⟨entry?_of_isOutside above, by rw [up]; decide⟩
      · exact ⟨entry?_of_isOutside above, by rw [root]; decide⟩
  | false =>
      unfold entry? at present
      rw [outside] at present
      obtain ⟨before, after, split, -⟩ := List.lookup_eq_some_iff.1 present
      have member : (place ++ [name], entry) ∈ disk.entries := by
        rw [split]
        exact List.mem_append_right before List.mem_cons_self
      obtain ⟨folder, short⟩ := entries _ member
      rw [List.dropLast_concat] at folder
      exact ⟨folder, short name (by simp)⟩

def barrierFrom (disk : Disk) (place : Place) : List String → Option DiskError
  | [] => none
  | name :: rest =>
      match disk.entry? place with
      | none => some .notFound
      | some (.file _) => some .notADirectory
      | some .folder =>
          if nameLimit < name.utf8ByteSize then some .nameTooLong
          else barrierFrom disk (place ++ [name]) rest

/-- What first keeps a walk from getting to a place. -/
def barrier (disk : Disk) (place : Place) : Option DiskError :=
  disk.barrierFrom [] place

theorem barrierFrom_append (disk : Disk) (place : Place) (names more : List String) :
    disk.barrierFrom place (names ++ more) =
      (disk.barrierFrom place names).or (disk.barrierFrom (place ++ names) more) := by
  induction names generalizing place with
  | nil => simp [barrierFrom]
  | cons name rest ih =>
      rw [List.cons_append, barrierFrom, barrierFrom]
      split
      · rfl
      · rfl
      · split
        · rfl
        · rw [ih, List.append_assoc, List.singleton_append]

theorem barrier_append (disk : Disk) (place : Place) (names : List String) :
    disk.barrier (place ++ names) = (disk.barrier place).or (disk.barrierFrom place names) :=
  disk.barrierFrom_append [] place names

theorem barrier_append_eq_none (folder : disk.entry? place = some .folder)
    (reached : disk.barrier place = none) {name : String} (short : name.utf8ByteSize ≤ nameLimit) :
    disk.barrier (place ++ [name]) = none := by
  rw [barrier_append, reached, Option.none_or, barrierFrom, folder]
  simp [barrierFrom, Nat.not_lt.2 short]

/-- Whatever is on the disk can be walked to. -/
theorem IsTree.barrier_eq_none (tree : disk.IsTree) (present : disk.entry? place = some entry) :
    disk.barrier place = none := by
  induction place using List.reverseRecOn generalizing entry with
  | nil => rfl
  | append_singleton place name ih =>
      obtain ⟨folder, short⟩ := tree place name entry present
      exact barrier_append_eq_none folder (ih folder) short

theorem IsTree.folder_of_prefix (tree : disk.IsTree) (part : other <+: place)
    (present : disk.entry? place = some entry) :
    other = place ∨ disk.entry? other = some .folder := by
  obtain ⟨rest, rfl⟩ := part
  induction rest using List.reverseRecOn generalizing entry with
  | nil => exact Or.inl (List.append_nil other).symm
  | append_singleton rest name ih =>
      rw [← List.append_assoc] at present
      have folder := (tree (other ++ rest) name entry present).1
      right
      rcases ih folder with same | above
      · rwa [← same] at folder
      · exact above

/-- A tree stays one when an entry that is no folder is changed in a folder. -/
theorem IsTree.change {changed : Disk} {name : String} {became : Option DiskEntry}
    (tree : disk.IsTree) (folder : disk.entry? place = some .folder)
    (closed : disk.entry? (place ++ [name]) ≠ some .folder)
    (short : name.utf8ByteSize ≤ nameLimit)
    (entries : ∀ other, changed.entry? other =
      if other = place ++ [name] then became else disk.entry? other) : changed.IsTree := by
  have stays : ∀ other, disk.entry? other = some .folder → changed.entry? other = some .folder := by
    intro other isFolder
    rw [entries, if_neg, isFolder]
    rintro rfl
    exact closed isFolder
  intro lower last entry found
  rw [entries] at found
  split at found
  · rename_i same
    obtain ⟨rfl, ends⟩ := List.append_inj' same rfl
    obtain rfl : last = name := by simpa using ends
    exact ⟨stays lower folder, short⟩
  · obtain ⟨above, short⟩ := tree lower last entry found
    exact ⟨stays lower above, short⟩

/-! ## Where paths lead -/

/-- Goes along the names from a folder, looking only at the folders that are left by "..". -/
def follow (disk : Disk) (place : Place) : List String → Option Place
  | [] => some place
  | name :: rest =>
      if name = ".." then
        if disk.entry? place = some .folder then follow disk (above place) rest else none
      else follow disk (place ++ [name]) rest

/-- The place a path leads to as soon as there are folders on the way. A path has none when it
leaves a folder by ".." that is not there. -/
def placeOf? (disk : Disk) (path : FilePath) : Option Place :=
  disk.follow (if path.isAbsolute then ["/"] else []) path.names

/-- Only folders outside are named ".." in a place. -/
def Grounded (place : Place) : Prop :=
  ∀ lower, lower ++ [".."] <+: place → isOutside lower = true

theorem grounded_of_isOutside (outside : isOutside place = true) : Grounded place := by
  rintro lower ⟨rest, rfl⟩
  simp only [isOutside, List.all_append, Bool.and_eq_true] at outside ⊢
  exact outside.1.1

namespace Grounded

theorem append {name : String} (grounded : Grounded place) (down : name ≠ "..") :
    Grounded (place ++ [name]) := by
  intro lower part
  rcases List.prefix_concat_iff.1 part with same | earlier
  · exact absurd (List.append_inj_right' same rfl) (by simpa using down.symm)
  · exact grounded lower earlier

/-- One level up there is a folder, outside or on the disk. -/
theorem above (grounded : Grounded place) (tree : disk.IsTree)
    (folder : disk.entry? place = some .folder) :
    Grounded (above place) ∧ disk.entry? (Disk.above place) = some .folder := by
  unfold Disk.above
  split
  · rename_i nothing
    rw [List.getLast?_eq_none_iff.1 nothing]
    have outside : isOutside ([] ++ [".."]) = true := by decide
    exact ⟨grounded_of_isOutside outside, entry?_of_isOutside outside⟩
  · rename_i up
    obtain ⟨lower, rfl⟩ := List.getLast?_eq_some_iff.1 up
    have outside : isOutside (lower ++ [".."] ++ [".."]) = true := by
      have below := grounded lower (List.prefix_refl _)
      simp only [isOutside, List.all_append, Bool.and_eq_true] at below ⊢
      exact ⟨⟨below, by decide⟩, by decide⟩
    exact ⟨grounded_of_isOutside outside, entry?_of_isOutside outside⟩
  · exact ⟨grounded, folder⟩
  · rename_i name _ _ last
    obtain ⟨lower, rfl⟩ := List.getLast?_eq_some_iff.1 last
    rw [List.dropLast_concat]
    exact ⟨fun deeper part => grounded deeper (part.trans (List.prefix_append lower [name])),
      (tree lower name .folder folder).1⟩

end Grounded

def Grows (disk later : Disk) : Prop :=
  ∀ place, disk.entry? place = some .folder → later.entry? place = some .folder

theorem Grows.follow {later : Disk} (grows : disk.Grows later) {names : List String}
    (found : disk.follow place names = some other) : later.follow place names = some other := by
  induction names generalizing place with
  | nil => exact found
  | cons name rest ih =>
      unfold Disk.follow at found ⊢
      by_cases up : name = ".."
      · by_cases folder : disk.entry? place = some .folder
        · rw [if_pos up, if_pos folder] at found
          rw [if_pos up, if_pos (grows place folder)]
          exact ih found
        · rw [if_pos up, if_neg folder] at found
          cases found
      · rw [if_neg up] at found ⊢
        exact ih found

theorem grounded_of_follow (tree : disk.IsTree) (grounded : Grounded place) {names : List String}
    (found : disk.follow place names = some other) : Grounded other := by
  induction names generalizing place with
  | nil =>
      cases found
      exact grounded
  | cons name rest ih =>
      unfold follow at found
      by_cases up : name = ".."
      · by_cases folder : disk.entry? place = some .folder
        · rw [if_pos up, if_pos folder] at found
          exact ih (grounded.above tree folder).1 found
        · rw [if_pos up, if_neg folder] at found
          cases found
      · rw [if_neg up] at found
        exact ih (grounded.append up) found

/-- From what is no folder the names only lead down. -/
theorem prefix_of_follow (tree : disk.IsTree) (closed : disk.entry? place ≠ some .folder)
    {names : List String} (found : disk.follow place names = some other) : place <+: other := by
  induction names generalizing place with
  | nil =>
      cases found
      exact List.prefix_refl _
  | cons name rest ih =>
      unfold follow at found
      by_cases up : name = ".."
      · rw [if_pos up, if_neg closed] at found
        cases found
      · rw [if_neg up] at found
        have deeper : disk.entry? (place ++ [name]) ≠ some .folder := fun present =>
          closed (tree place name .folder present).1
        exact (List.prefix_append place [name]).trans (ih deeper found)

/-! ## Walking -/

theorem barrier_of_closed (tree : disk.IsTree) (reached : disk.barrier place = none)
    (closed : disk.entry? place ≠ some .folder) {name : String} {rest : List String}
    (found : disk.follow place (name :: rest) = some other) :
    disk.barrier other =
      some (if disk.entry? place = none then .notFound else .notADirectory) := by
  unfold follow at found
  by_cases up : name = ".."
  · rw [if_pos up, if_neg closed] at found
    cases found
  · rw [if_neg up] at found
    have deeper : disk.entry? (place ++ [name]) ≠ some .folder := fun present =>
      closed (tree place name .folder present).1
    obtain ⟨later, rfl⟩ := prefix_of_follow tree deeper found
    rw [List.append_assoc, barrier_append, reached, Option.none_or, List.singleton_append,
      barrierFrom]
    cases present : disk.entry? place with
    | none => rfl
    | some entry =>
        cases entry with
        | file content => rfl
        | folder => exact absurd present closed

def tidy (components : List String) : Bool :=
  components.getLast?.all FilePath.isName

theorem tidy_cons {name : String} {rest : List String}
    (later : FilePath.isName name = true ∨ rest ≠ []) : tidy (name :: rest) = tidy rest := by
  unfold tidy
  cases rest with
  | nil => simpa using later
  | cons next others => rw [List.getLast?_cons_cons]

theorem tidy_of_nameless {components : List String} (nonempty : components ≠ [])
    (nameless : components.filter FilePath.isName = []) : tidy components = false := by
  unfold tidy
  rw [List.getLast?_eq_some_getLast nonempty]
  simpa using List.filter_eq_nil_iff.1 nameless _ (List.getLast_mem nonempty)

/-- How a walk to a place ends: at the place, unless something is in its way or it asks for a folder
there and finds none. -/
inductive Arrives (disk : Disk) (place : Place) : Bool → Except DiskError Place → Prop
  | blocked {tidy : Bool} {problem : DiskError} (barred : disk.barrier place = some problem) :
      Arrives disk place tidy (.error problem)
  | tidy (reached : disk.barrier place = none) : Arrives disk place true (.ok place)
  | folder {tidy : Bool} (present : disk.entry? place = some .folder) :
      Arrives disk place tidy (.ok place)
  | file {content : Content} (present : disk.entry? place = some (.file content)) :
      Arrives disk place false (.error .notADirectory)
  | missing (reached : disk.barrier place = none) (absent : disk.entry? place = none) :
      Arrives disk place false (.error .notFound)
  | slash (reached : disk.barrier place = none) (absent : disk.entry? place = none) :
      Arrives disk place false (.ok place)

theorem arrives_of_closed (tree : disk.IsTree) (reached : disk.barrier place = none)
    (closed : disk.entry? place ≠ some .folder) {name : String} {rest : List String}
    (found : disk.follow place ((name :: rest).filter FilePath.isName) = some other) :
    Arrives disk other (tidy (name :: rest))
      (.error (if disk.entry? place = none then .notFound else .notADirectory)) := by
  cases names : (name :: rest).filter FilePath.isName with
  | nil =>
      rw [names] at found
      cases found
      rw [tidy_of_nameless (List.cons_ne_nil name rest) names]
      cases present : disk.entry? place with
      | none => exact .missing reached present
      | some entry =>
          cases entry with
          | folder => exact absurd present closed
          | file content => exact .file present
  | cons next later =>
      rw [names] at found
      exact .blocked (barrier_of_closed tree reached closed found)

theorem walk_arrives (tree : disk.IsTree) {components : List String} (grounded : Grounded place)
    (reached : disk.barrier place = none)
    (found : disk.follow place (components.filter FilePath.isName) = some other) :
    Arrives disk other (tidy components) (disk.walk place components) := by
  -- The walk looks at every folder, `follow` only at those it leaves; that there was none in the
  -- way so far (`reached`) is what keeps the two together.
  fun_induction walk disk place components with
  | case1 place =>
      cases found
      exact .tidy reached
  | case2 place content present =>
      -- A slash after a file.
      cases found
      exact .file present
  | case3 place unfiled =>
      cases found
      cases present : disk.entry? other with
      | none => exact .slash reached present
      | some entry =>
          cases entry with
          | file content => exact (unfiled content present).elim
          | folder => exact .folder present
  | case4 place name rest _ absent =>
      have arrives := arrives_of_closed tree reached (by simp [absent]) found
      rwa [if_pos absent] at arrives
  | case5 place name rest _ content present =>
      have arrives := arrives_of_closed tree reached (by simp [present]) found
      rwa [if_neg (by simp [present])] at arrives
  | case6 place name rest _ folder stays ih =>
      have nameless : FilePath.isName name = false := by
        simpa [FilePath.isName, or_iff_not_imp_left] using stays
      rw [List.filter_cons_of_neg (by simp [nameless])] at found
      cases rest with
      | nil =>
          cases found
          exact .folder folder
      | cons next later =>
          rw [tidy_cons (Or.inr (List.cons_ne_nil next later))]
          exact ih grounded reached found
  | case7 place name rest _ folder moves up ih =>
      obtain rfl : name = ".." := by simpa using up
      rw [List.filter_cons_of_pos (by decide), follow, if_pos rfl, if_pos folder] at found
      rw [tidy_cons (Or.inl (by decide))]
      obtain ⟨grounded, folder⟩ := grounded.above tree folder
      exact ih grounded (tree.barrier_eq_none folder) found
  | case8 place name rest _ folder moves down long =>
      have named : FilePath.isName name = true := by simpa [FilePath.isName] using moves
      rw [List.filter_cons_of_pos named, follow, if_neg (by simpa using down)] at found
      -- Nothing has a name that is too long, so the names that follow lead further down.
      have closed : disk.entry? (place ++ [name]) ≠ some .folder := fun present =>
        absurd (tree place name .folder present).2 (Nat.not_le.2 long)
      obtain ⟨later, rfl⟩ := prefix_of_follow tree closed found
      apply Arrives.blocked
      rw [List.append_assoc, barrier_append, reached, Option.none_or, List.singleton_append,
        barrierFrom, folder]
      exact if_pos long
  | case9 place name rest _ folder moves down short ih =>
      have named : FilePath.isName name = true := by simpa [FilePath.isName] using moves
      have down : name ≠ ".." := by simpa using down
      rw [List.filter_cons_of_pos named, follow, if_neg down] at found
      rw [tidy_cons (Or.inl named)]
      apply ih
      · exact grounded.append down
      · exact barrier_append_eq_none folder reached (Nat.not_lt.1 short)
      · exact found

/-! ## Operations at a place -/

def removal (disk : Disk) (place : Place) : Option DiskEntry → Except DiskError Disk
  | none => .error .notFound
  | some .folder => .error .isADirectory
  | some (.file _) => .ok (disk.erase place)

def refusal? (path : FilePath) : Option DiskError :=
  if path.text.toList.contains '\x00' then some .nulInPath
  else if path.text.isEmpty then some .notFound
  else if pathLimit ≤ path.text.utf8ByteSize then some .nameTooLong
  else none

theorem locate_eq (disk : Disk) (path : FilePath) :
    disk.locate path = match refusal? path with
      | some problem => .error problem
      | none => disk.walk (if path.isAbsolute then ["/"] else []) (components path) := by
  unfold locate refusal?
  split
  · rfl
  · split
    · rfl
    · split <;> rfl

theorem tidy_components (path : FilePath) : tidy (components path) = path.endsInName := by
  unfold tidy FilePath.endsInName
  cases last : (components path).getLast? with
  | none => simp [components, Text.split_ne_nil] at last
  | some name => rfl

theorem isOutside_start (path : FilePath) :
    isOutside (if path.isAbsolute then ["/"] else []) = true := by
  split <;> decide

section
variable {path : FilePath} {problem : DiskError}

theorem locate_refused (refused : refusal? path = some problem) :
    disk.locate path = .error problem := by
  rw [locate_eq, refused]

theorem stat_refused (refused : refusal? path = some problem) :
    disk.stat path = .error problem := by
  rw [stat, locate_refused refused]

variable (tree : disk.IsTree) (accepted : refusal? path = none)
  (found : disk.placeOf? path = some place)
include tree found

theorem grounded_of_placeOf? : Grounded place :=
  grounded_of_follow tree (grounded_of_isOutside (isOutside_start path)) found

include accepted

theorem locate_arrives : Arrives disk place path.endsInName (disk.locate path) := by
  rw [locate_eq, accepted, ← tidy_components]
  have outside := isOutside_start path
  exact walk_arrives tree (grounded_of_isOutside outside)
    (tree.barrier_eq_none (entry?_of_isOutside outside)) found

theorem stat_eq :
    disk.stat path = match disk.entry? place with
      | none => .error ((disk.barrier place).getD .notFound)
      | some .folder => .ok (place, .folder)
      | some (.file content) =>
          if path.endsInName then .ok (place, .file content) else .error .notADirectory := by
  have arrives := locate_arrives tree accepted found
  rw [stat]
  generalize path.endsInName = ends at arrives ⊢
  generalize disk.locate path = located at arrives ⊢
  cases arrives with
  | blocked barred =>
      cases present : disk.entry? place with
      | none => simp [barred]
      | some entry =>
          rw [tree.barrier_eq_none present] at barred
          cases barred
  | tidy reached =>
      cases present : disk.entry? place with
      | none => simp [reached, present]
      | some entry => cases entry <;> simp [present]
  | folder present => simp only [present]
  | file present => simp [present]
  | missing reached absent => simp [absent, reached]
  | slash reached absent => simp [absent, reached]

theorem locate_named (named : path.endsInName = true ∨ disk.entry? place = some .folder) :
    disk.locate path = match disk.barrier place with
      | some problem => .error problem
      | none => .ok place := by
  have arrives := locate_arrives tree accepted found
  generalize path.endsInName = ends at arrives named
  generalize disk.locate path = located at arrives ⊢
  cases arrives with
  | blocked barred => rw [barred]
  | tidy reached => rw [reached]
  | folder present => rw [tree.barrier_eq_none present]
  | file present => simp [present] at named
  | missing reached absent => simp [absent] at named
  | slash reached absent => simp [absent] at named

theorem makeFolder_eq (named : path.endsInName = true ∨ disk.entry? place = some .folder) :
    disk.makeFolder path = match disk.barrier place with
      | some problem => .error problem
      | none => if disk.entry? place = none then .ok (disk.set place .folder)
          else .error .alreadyExists := by
  rw [makeFolder, locate_named tree accepted found named]
  cases disk.barrier place with
  | some problem => rfl
  | none => cases present : disk.entry? place <;> simp [present]

theorem writeText_eq (named : path.endsInName = true) (reached : disk.barrier place = none)
    (text : String) :
    disk.writeText path text = if disk.entry? place = some .folder then .error .isADirectory
      else .ok (disk.set place (.file (.text text))) := by
  have ending : namesFolder path = false := by
    obtain ⟨last, found, isName⟩ := (Option.any_eq_true _ _).1 named
    unfold namesFolder
    rw [found]
    split
    · rename_i empty
      cases empty
      exact absurd isName (by decide)
    · rfl
  rw [writeText, writeContent, locate_named tree accepted found (Or.inl named), reached]
  cases present : disk.entry? place with
  | none => simp [present, ending]
  | some entry => cases entry <;> simp [present]

theorem removeFile_eq (named : path.endsInName = true) (reached : disk.barrier place = none) :
    disk.removeFile path = disk.removal place (disk.entry? place) := by
  rw [removeFile, stat_eq tree accepted found, reached, named]
  cases present : disk.entry? place with
  | none => rfl
  | some entry => cases entry <;> rfl

end

/-- When nothing is at a place, the walk to it fails for a file on the way, or for want of what is
missing. -/
theorem barrier_of_absent (tree : disk.IsTree) (absent : disk.entry? place = none)
    (short : ∀ name ∈ place, name.utf8ByteSize ≤ nameLimit) :
    ((disk.barrier place).getD .notFound = .notADirectory ↔
      ∃ lower content, lower <+: place ∧ disk.entry? lower = some (.file content)) ∧
    ((disk.barrier place).getD .notFound = .notADirectory ∨
      (disk.barrier place).getD .notFound = .notFound) := by
  induction place using List.reverseRecOn with
  | nil =>
      rw [entry?_of_isOutside (by decide)] at absent
      cases absent
  | append_singleton place name ih =>
      have last := short name (by simp)
      have earlier : ∀ name ∈ place, name.utf8ByteSize ≤ nameLimit := fun name member =>
        short name (List.mem_append_left _ member)
      rw [barrier_append, barrierFrom]
      cases present : disk.entry? place with
      | none =>
          have same : ((disk.barrier place).or (some .notFound)).getD .notFound =
              (disk.barrier place).getD .notFound := by
            cases disk.barrier place <;> rfl
          simp only [same, List.prefix_concat_iff]
          refine ⟨(ih present earlier).1.trans ⟨?_, ?_⟩, (ih present earlier).2⟩
          · rintro ⟨lower, content, part, file⟩
            exact ⟨lower, content, Or.inr part, file⟩
          · rintro ⟨lower, content, rfl | part, file⟩
            · rw [absent] at file
              cases file
            · exact ⟨lower, content, part, file⟩
      | some entry =>
          rw [tree.barrier_eq_none present, Option.none_or]
          cases entry with
          | file content =>
              simp only [Option.getD_some, true_or, and_true, true_iff]
              exact ⟨place, content, List.prefix_append place [name], present⟩
          | folder =>
              simp only [if_neg (Nat.not_lt.2 last), barrierFrom, Option.getD_none, or_true,
                and_true, reduceCtorEq, false_iff]
              rintro ⟨lower, content, part, file⟩
              rcases List.prefix_concat_iff.1 part with rfl | part
              · rw [absent] at file
                cases file
              · rcases tree.folder_of_prefix part present with rfl | folder
                · rw [present] at file
                  cases file
                · rw [folder] at file
                  cases file

end ServiceStubs.Disk
