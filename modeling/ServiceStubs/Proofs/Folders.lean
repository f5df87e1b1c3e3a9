import ServiceStubs.Proofs.DiskTree
/-!
Making a folder with those around it. Every missing folder on the way is made,
up to the first file or the first name that is too long; what the operation
answers depends on where these are.
-/

namespace ServiceStubs.Disk

variable {disk : Disk} {place other : Place} {path : FilePath}

/-- What is on the way to a file's folder is on the way to the file. -/
theorem on_way {lower folder : Place} (name : String) (part : lower <+: folder) :
    lower <+: folder ++ [name] ∧ lower ≠ folder ++ [name] := by
  refine ⟨part.trans (List.prefix_append folder [name]), ?_⟩
  rintro rfl
  have shorter := part.length_le
  rw [List.length_append, List.length_singleton] at shorter
  omega

def tooLong (place : Place) : Bool :=
  place.getLast?.any fun name => nameLimit < name.utf8ByteSize

/-- Whether there can be no folder at a place. -/
def blocks (disk : Disk) (place : Place) : Bool :=
  tooLong place || match disk.entry? place with
    | some (.file _) => true
    | _ => false

def firstBlock (disk : Disk) (place : Place) : Option Place :=
  place.inits.find? disk.blocks

def folderAnswer (disk : Disk) (place : Place) : Except DiskError Unit :=
  match disk.firstBlock place with
  | none => .ok ()
  | some lower =>
      .error (if tooLong lower then .nameTooLong
        else if lower = place then .alreadyExists else .notADirectory)

theorem firstBlock_append (disk : Disk) (place : Place) (name : String) :
    disk.firstBlock (place ++ [name]) =
      (disk.firstBlock place).or
        (if disk.blocks (place ++ [name]) then some (place ++ [name]) else none) := by
  unfold firstBlock
  rw [List.inits_append, List.find?_append]
  simp [List.find?_singleton]

theorem firstBlock_eq_none_iff :
    disk.firstBlock place = none ↔ ∀ lower, lower <+: place → disk.blocks lower = false := by
  simp [firstBlock]

theorem blocks_eq_false (tree : disk.IsTree) (folder : disk.entry? place = some .folder) :
    disk.blocks place = false := by
  unfold blocks tooLong
  rw [folder]
  rcases List.eq_nil_or_concat place with rfl | ⟨lower, name, rfl⟩
  · rfl
  · rw [List.concat_eq_append] at folder ⊢
    simpa using (tree lower name .folder folder).2

theorem firstBlock_of_folder (tree : disk.IsTree) (folder : disk.entry? place = some .folder) :
    disk.firstBlock place = none := by
  rw [firstBlock_eq_none_iff]
  intro lower part
  rcases tree.folder_of_prefix part folder with rfl | above
  · exact blocks_eq_false tree folder
  · exact blocks_eq_false tree above

theorem blocks_of_file {content : Content} (file : disk.entry? place = some (.file content)) :
    disk.blocks place = true := by
  rw [blocks, file, Bool.or_true]

/-- Where a folder can be made there is one, or nothing. -/
theorem entry?_of_firstBlock (clear : disk.firstBlock place = none) :
    disk.entry? place ∈ [none, some .folder] := by
  have free := firstBlock_eq_none_iff.1 clear place (List.prefix_refl place)
  cases here : disk.entry? place with
  | none => exact List.mem_cons_self
  | some entry =>
      cases entry with
      | folder => exact List.mem_cons_of_mem _ List.mem_cons_self
      | file content =>
          rw [blocks_of_file here] at free
          cases free

theorem tooLong_eq_false {entry : DiskEntry} (tree : disk.IsTree)
    (present : disk.entry? place = some entry) : tooLong place = false := by
  rcases List.eq_nil_or_concat place with rfl | ⟨lower, name, rfl⟩
  · rfl
  · rw [List.concat_eq_append] at present ⊢
    simpa [tooLong] using (tree lower name entry present).2

theorem firstBlock_of_file {content : Content} (tree : disk.IsTree)
    (file : disk.entry? place = some (.file content)) : disk.firstBlock place = some place := by
  rcases List.eq_nil_or_concat place with rfl | ⟨lower, name, rfl⟩
  · rw [entry?_of_isOutside (by decide)] at file
    cases file
  · rw [List.concat_eq_append] at file ⊢
    have above := (tree lower name _ file).1
    rw [firstBlock_append, firstBlock_of_folder tree above, Option.none_or,
      if_pos (blocks_of_file file)]

theorem prefix_of_firstBlock (found : disk.firstBlock place = some other) : other <+: place :=
  (List.mem_inits _ _).1 (List.mem_of_find?_eq_some found)

structure Makes (disk : Disk) (place : Place) (outcome : Disk × Except DiskError Unit) : Prop where
  answer : outcome.2 = disk.folderAnswer place
  entries : ∀ other, entry? outcome.1 other =
    if other <+: place ∧ disk.firstBlock other = none then some .folder else disk.entry? other

theorem Makes.of_folder (tree : disk.IsTree) (folder : disk.entry? place = some .folder) :
    Makes disk place (disk, .ok ()) := by
  constructor
  · rw [folderAnswer, firstBlock_of_folder tree folder]
  · intro other
    split
    · rename_i made
      rcases tree.folder_of_prefix made.1 folder with rfl | above
      · exact folder
      · exact above
    · rfl

namespace Makes
variable {reached : Disk} {name : String}

theorem of_file {content : Content} (tree : disk.IsTree)
    (file : disk.entry? place = some (.file content)) :
    Makes disk place (disk, .error .alreadyExists) := by
  have found := firstBlock_of_file tree file
  constructor
  · simp [folderAnswer, found, tooLong_eq_false tree file]
  · intro other
    split
    · rename_i made
      rcases tree.folder_of_prefix made.1 file with rfl | above
      · rw [found] at made
        cases made.2
      · exact above
    · rfl

theorem grows {outcome : Disk × Except DiskError Unit} (makes : Makes disk place outcome) :
    disk.Grows outcome.1 := by
  intro other folder
  rw [makes.entries]
  split
  · rfl
  · exact folder

theorem isTree {outcome : Disk × Except DiskError Unit} (makes : Makes disk place outcome)
    (tree : disk.IsTree) : outcome.1.IsTree := by
  intro lower name entry present
  rw [makes.entries] at present
  split at present
  · rename_i made
    obtain ⟨part, clear⟩ := made
    rw [firstBlock_append, Option.or_eq_none_iff] at clear
    have above : lower <+: place := (List.prefix_append lower [name]).trans part
    have open' : disk.blocks (lower ++ [name]) = false := by simpa using clear.2
    have short : tooLong (lower ++ [name]) = false := by
      rw [blocks, Bool.or_eq_false_iff] at open'
      exact open'.1
    refine ⟨?_, by simpa [tooLong] using short⟩
    rw [makes.entries, if_pos ⟨above, clear.1⟩]
  · obtain ⟨folder, short⟩ := tree lower name entry present
    exact ⟨makes.grows lower folder, short⟩

theorem firstBlock_eq_none (makes : Makes disk place (reached, .ok ())) :
    disk.firstBlock place = none := by
  have answer := makes.answer
  unfold folderAnswer at answer
  split at answer
  · assumption
  · cases answer

theorem entry?_eq_folder (makes : Makes disk place (reached, .ok ())) :
    reached.entry? place = some .folder := by
  have entries := makes.entries place
  rwa [if_pos ⟨List.prefix_refl place, makes.firstBlock_eq_none⟩] at entries

theorem entries_append {outcome : Disk × Except DiskError Unit} (makes : Makes disk place outcome)
    (apart : other ≠ place ++ [name] ∨ disk.firstBlock other ≠ none) :
    entry? outcome.1 other =
      if other <+: place ++ [name] ∧ disk.firstBlock other = none then some .folder
      else disk.entry? other := by
  rw [makes.entries]
  by_cases clear : disk.firstBlock other = none
  · have differs := apart.resolve_right (not_not.2 clear)
    simp only [List.prefix_concat_iff, differs, false_or]
  · simp only [clear, and_false, if_false]

/-- A missing folder is made in the one that was made for it. -/
theorem set (makes : Makes disk place (reached, .ok ()))
    (absent : disk.entry? (place ++ [name]) = none) (short : name.utf8ByteSize ≤ nameLimit) :
    Makes disk (place ++ [name]) (reached.set (place ++ [name]) .folder, .ok ()) := by
  have clear : disk.firstBlock (place ++ [name]) = none := by
    have free : disk.blocks (place ++ [name]) = false := by simpa [blocks, tooLong, absent] using short
    rw [firstBlock_append, makes.firstBlock_eq_none, free]
    rfl
  have closed : disk.entry? (place ++ [name]) ≠ some .folder := by simp [absent]
  constructor
  · rw [folderAnswer, clear]
  · intro other
    rw [entry?_set (inside_of_not_folder closed)]
    by_cases same : other = place ++ [name]
    · rw [if_pos same, if_pos ⟨by rw [same], by rw [same, clear]⟩]
    · rw [if_neg same]
      exact makes.entries_append (Or.inl same)

theorem refuse (makes : Makes disk place (reached, .ok ()))
    (long : nameLimit < name.utf8ByteSize) :
    Makes disk (place ++ [name]) (reached, .error .nameTooLong) := by
  have exceeds : tooLong (place ++ [name]) = true := by simpa [tooLong] using long
  have found : disk.firstBlock (place ++ [name]) = some (place ++ [name]) := by
    rw [firstBlock_append, makes.firstBlock_eq_none, blocks, exceeds]
    rfl
  constructor
  · simp [folderAnswer, found, exceeds]
  · intro other
    apply makes.entries_append
    by_cases same : other = place ++ [name]
    · exact Or.inr (by simp [same, found])
    · exact Or.inl same

theorem stop {problem : DiskError} (makes : Makes disk place (reached, .error problem))
    (absent : disk.entry? place = none) :
    Makes disk (place ++ [name]) (reached, .error problem) := by
  have answer := makes.answer
  unfold folderAnswer at answer
  split at answer
  · cases answer
  · rename_i lower found
    have whole : disk.firstBlock (place ++ [name]) = some lower := by
      rw [firstBlock_append, found, Option.some_or]
    have apart := (on_way name (prefix_of_firstBlock found)).2
    constructor
    · rw [answer, folderAnswer, whole]
      -- The place itself blocks only by its name, since nothing is there.
      by_cases same : lower = place
      · have blocked := List.find?_some found
        have long : tooLong place = true := by simpa [blocks, same, absent] using blocked
        simp [same, long]
      · simp only [if_neg same, if_neg apart]
    · intro other
      apply makes.entries_append
      by_cases same : other = place ++ [name]
      · exact Or.inr (by simp [same, whole])
      · exact Or.inl same

theorem below_file {content : Content} (tree : disk.IsTree)
    (file : disk.entry? place = some (.file content)) :
    Makes disk (place ++ [name]) (disk, .error .notADirectory) := by
  have whole : disk.firstBlock (place ++ [name]) = some place := by
    rw [firstBlock_append, firstBlock_of_file tree file, Option.some_or]
  constructor
  · simp [folderAnswer, whole, tooLong_eq_false tree file]
  · intro other
    apply (of_file tree file).entries_append
    by_cases same : other = place ++ [name]
    · exact Or.inr (by simp [same, whole])
    · exact Or.inl same

/-- Where a walk does not get through although nothing is missing on the way, no folder is made. -/
theorem of_barrier {problem : DiskError} (tree : disk.IsTree)
    (barred : disk.barrier place = some problem) (present : problem ≠ .notFound) :
    Makes disk place (disk, .error problem) := by
  induction place using List.reverseRecOn generalizing problem with
  | nil => cases barred
  | append_singleton place name ih =>
      rw [barrier_append] at barred
      cases here : disk.entry? place with
      | none =>
          cases earlier : disk.barrier place with
          | none =>
              rw [earlier, Option.none_or, barrierFrom, here] at barred
              cases barred
              exact absurd rfl present
          | some first =>
              rw [earlier] at barred
              cases barred
              exact (ih earlier present).stop here
      | some entry =>
          rw [tree.barrier_eq_none here, Option.none_or, barrierFrom, here] at barred
          cases entry with
          | file content =>
              cases barred
              exact below_file tree here
          | folder =>
              by_cases long : nameLimit < name.utf8ByteSize
              · simp only [if_pos long] at barred
                cases barred
                exact (of_folder tree here).refuse long
              · simp [long, barrierFrom] at barred

end Makes

theorem follow_append (disk : Disk) (place : Place) (names : List String) (name : String) :
    disk.follow place (names ++ [name]) =
      (disk.follow place names).bind fun folder => disk.follow folder [name] := by
  induction names generalizing place with
  | nil => rfl
  | cons first rest ih =>
      rw [List.cons_append, follow, follow]
      split
      · split
        · exact ih _
        · rfl
      · exact ih _

section
variable {parent : FilePath} (found : path.parent = some parent)
  (leads : disk.placeOf? path = some place)
include found leads

theorem placeOf?_parent {before : List String} {name : String}
    (whole : path.names = before ++ [name]) :
    ∃ folder, disk.placeOf? parent = some folder ∧ disk.follow folder [name] = some place := by
  have names := FilePath.names_parent found
  unfold placeOf? at leads ⊢
  rw [whole, List.dropLast_concat] at names
  rw [whole, follow_append] at leads
  rw [names, (FilePath.parent_prefix found).2]
  exact Option.bind_eq_some_iff.1 leads

/-- Where there is no folder, the path leads to something in the place of its parent. -/
theorem placeOf?_of_closed (tree : disk.IsTree) (closed : disk.entry? place ≠ some .folder) :
    ∃ folder name, path.names ≠ [] ∧ place = folder ++ [name] ∧
      disk.placeOf? parent = some folder := by
  rcases List.eq_nil_or_concat path.names with nothing | ⟨before, name, whole⟩
  · unfold placeOf? at leads
    rw [nothing] at leads
    cases leads
    exact absurd (entry?_of_isOutside (isOutside_start path)) closed
  · rw [List.concat_eq_append] at whole
    obtain ⟨folder, earlier, last⟩ := placeOf?_parent found leads whole
    unfold follow at last
    split at last
    · split at last
      · -- What is above a folder is a folder.
        rename_i up present
        cases last
        exact absurd ((grounded_of_placeOf? tree earlier).above tree present).2 closed
      · cases last
    · cases last
      exact ⟨folder, name, by simp [whole], rfl, earlier⟩

end

theorem isFolder_iff (tree : disk.IsTree) (accepted : refusal? path = none)
    (leads : disk.placeOf? path = some place) :
    disk.isFolder path = true ↔ disk.entry? place = some .folder := by
  rw [isFolder, stat_eq tree accepted leads]
  cases present : disk.entry? place with
  | none => simp
  | some entry =>
      cases entry with
      | folder => simp
      | file content => cases path.endsInName <;> simp

theorem refusal?_parent {parent : FilePath} (found : path.parent = some parent)
    (accepted : refusal? path = none) : parent.parent = none ∨ refusal? parent = none := by
  cases outer : parent.parent with
  | none => exact Or.inl rfl
  | some outermost =>
      obtain ⟨rest, text⟩ := (FilePath.parent_prefix found).1
      have nonempty : parent.text.isEmpty = false := by
        rw [String.isEmpty_eq_false_iff]
        intro empty
        have shorter := FilePath.parent_length outer
        rw [empty] at shorter
        simp at shorter
      have whole : path.text = parent.text ++ String.ofList rest := by
        rw [← String.toList_inj, String.toList_append, String.toList_ofList, text]
      have size : parent.text.utf8ByteSize ≤ path.text.utf8ByteSize := by
        rw [whole, String.utf8ByteSize_append]
        exact Nat.le_add_right _ _
      right
      unfold refusal? at accepted ⊢
      split at accepted
      · cases accepted
      · rename_i clean
        rw [← text] at clean
        split at accepted
        · cases accepted
        · split at accepted
          · cases accepted
          · rename_i fits
            rw [if_neg (by simp at clean ⊢; exact clean.1), if_neg (by simp [nonempty]),
              if_neg (by omega)]

theorem folder_of_barrier {name : String} (clear : disk.barrier (place ++ [name]) = none) :
    disk.entry? place = some .folder ∧ name.utf8ByteSize ≤ nameLimit := by
  rw [barrier_append, Option.or_eq_none_iff, barrierFrom] at clear
  cases present : disk.entry? place with
  | none => simp [present] at clear
  | some entry => cases entry <;> simp_all [barrierFrom]

theorem missing_of_barrier {name : String} (tree : disk.IsTree)
    (barred : disk.barrier (place ++ [name]) = some .notFound) : disk.entry? place = none := by
  cases present : disk.entry? place with
  | none => rfl
  | some entry =>
      rw [barrier_append, tree.barrier_eq_none present, Option.none_or, barrierFrom, present] at barred
      cases entry with
      | file content => cases barred
      | folder =>
          by_cases long : nameLimit < name.utf8ByteSize
          · simp [long] at barred
          · simp [long, barrierFrom] at barred

theorem ne_alreadyExists_of_barrierFrom {names : List String} {problem : DiskError}
    (barred : disk.barrierFrom place names = some problem) : problem ≠ .alreadyExists := by
  induction names generalizing place with
  | nil => cases barred
  | cons name rest ih =>
      rw [barrierFrom] at barred
      split at barred
      · cases barred
        simp
      · cases barred
        simp
      · split at barred
        · cases barred
          simp
        · exact ih barred

/-- Once the folder around it is made, the folder itself is, unless its name is too long. -/
theorem Makes.makeFolder {reached : Disk} {name : String} (tree : disk.IsTree)
    (accepted : refusal? path = none) (leads : disk.placeOf? path = some (place ++ [name]))
    (named : path.endsInName = true) (vacant : disk.entry? (place ++ [name]) = none)
    (before : Makes disk place (reached, .ok ())) :
    reached.makeFolder path = if nameLimit < name.utf8ByteSize then .error .nameTooLong
      else .ok (reached.set (place ++ [name]) .folder) := by
  have present := before.entry?_eq_folder
  have reachedTree : reached.IsTree := before.isTree tree
  rw [makeFolder_eq reachedTree accepted (before.grows.follow leads) (Or.inl named)]
  by_cases long : nameLimit < name.utf8ByteSize
  · have stops : reached.barrier (place ++ [name]) = some .nameTooLong := by
      rw [barrier_append, reachedTree.barrier_eq_none present, Option.none_or, barrierFrom, present]
      exact if_pos long
    rw [stops, if_pos long]
  · have still : reached.entry? (place ++ [name]) = none := by
      have entries := before.entries (place ++ [name])
      rwa [if_neg fun made => (on_way name made.1).2 rfl, vacant] at entries
    have clear := barrier_append_eq_none present (reachedTree.barrier_eq_none present)
      (Nat.not_lt.1 long)
    rw [clear, if_neg long]
    exact if_pos still

section
variable {name : String} {around : List FilePath} (tree : disk.IsTree)
  (accepted : refusal? path = none)
include tree accepted

theorem makeFoldersFrom_of_folder (leads : disk.placeOf? path = some place)
    (folder : disk.entry? place = some .folder) :
    Makes disk place (disk.makeFoldersFrom (path :: around)) := by
  have present := (isFolder_iff tree accepted leads).2 folder
  rw [makeFoldersFrom, makeFolder_eq tree accepted leads (Or.inr folder),
    tree.barrier_eq_none folder]
  simp only [folder, present, reduceCtorEq, if_false]
  exact .of_folder tree folder

variable (leads : disk.placeOf? path = some (place ++ [name])) (named : path.endsInName = true)
include leads named

theorem makeFoldersFrom_of_clear (clear : disk.barrier (place ++ [name]) = none)
    (closed : disk.entry? (place ++ [name]) ≠ some .folder) :
    Makes disk (place ++ [name]) (disk.makeFoldersFrom (path :: around)) := by
  obtain ⟨folder, short⟩ := folder_of_barrier clear
  rw [makeFoldersFrom, makeFolder_eq tree accepted leads (Or.inl named), clear]
  cases here : disk.entry? (place ++ [name]) with
  | none => exact .set (.of_folder tree folder) here short
  | some entry =>
      cases entry with
      | folder => exact absurd here closed
      | file content =>
          have unlike : disk.isFolder path = false := by
            rw [Bool.eq_false_iff, ne_eq, isFolder_iff tree accepted leads]
            exact closed
          simp only [unlike, reduceCtorEq, if_false]
          exact .of_file tree here

theorem makeFoldersFrom_of_missing (missing : disk.barrier (place ++ [name]) = some .notFound)
    (before : Makes disk place (disk.makeFoldersFrom around)) :
    Makes disk (place ++ [name]) (disk.makeFoldersFrom (path :: around)) := by
  have absent := missing_of_barrier tree missing
  have vacant : disk.entry? (place ++ [name]) = none := by
    cases here : disk.entry? (place ++ [name]) with
    | none => rfl
    | some entry =>
        rw [(tree place name entry here).1] at absent
        cases absent
  rw [makeFoldersFrom, makeFolder_eq tree accepted leads (Or.inl named), missing]
  generalize disk.makeFoldersFrom around = outcome at before ⊢
  obtain ⟨reached, answer⟩ := outcome
  cases answer with
  | error problem => exact before.stop absent
  | ok done =>
      simp only [before.makeFolder tree accepted leads named vacant]
      by_cases long : nameLimit < name.utf8ByteSize
      · rw [if_pos long]
        exact before.refuse long
      · rw [if_neg long]
        exact before.set vacant (Nat.not_lt.1 long)

theorem makeFoldersFrom_of_barrier {problem : DiskError}
    (barred : disk.barrier (place ++ [name]) = some problem) (present : problem ≠ .notFound) :
    Makes disk (place ++ [name]) (disk.makeFoldersFrom (path :: around)) := by
  have unlike := ne_alreadyExists_of_barrierFrom barred
  rw [makeFoldersFrom, makeFolder_eq tree accepted leads (Or.inl named), barred]
  cases problem with
  | notFound => exact absurd rfl present
  | alreadyExists => exact absurd rfl unlike
  | notADirectory | isADirectory | nameTooLong | nulInPath | notText =>
      exact .of_barrier tree barred present

end

/-- The folders around a path are made from the outermost missing one on. -/
theorem makeFoldersFrom_around (tree : disk.IsTree) (steps : Nat)
    (enough : path.text.toList.length < steps) (leads : disk.placeOf? path = some place)
    (named : path.names = [] ∨ path.endsInName = true)
    (accepted : path.parent = none ∨ refusal? path = none) :
    Makes disk place (disk.makeFoldersFrom (around steps path)) := by
  -- Each folder is first tried alone, so only a missing one around it calls for the induction.
  induction steps generalizing path place with
  | zero => omega
  | succ steps ih =>
      unfold around
      cases found : path.parent with
      | none =>
          have nothing := FilePath.names_of_parent_none found
          unfold placeOf? at leads
          rw [nothing] at leads
          cases leads
          exact .of_folder tree (entry?_of_isOutside (isOutside_start path))
      | some parent =>
          have accepted := accepted.resolve_left (by simp [found])
          by_cases folder : disk.entry? place = some .folder
          · exact makeFoldersFrom_of_folder tree accepted leads folder
          · obtain ⟨lower, name, inner, rfl, above⟩ := placeOf?_of_closed found leads tree folder
            have named := named.resolve_left inner
            cases barred : disk.barrier (lower ++ [name]) with
            | none => exact makeFoldersFrom_of_clear tree accepted leads named barred folder
            | some problem =>
                by_cases missing : problem = .notFound
                · subst missing
                  apply makeFoldersFrom_of_missing tree accepted leads named barred
                  apply ih
                  · exact Nat.lt_of_lt_of_le (FilePath.parent_length found) (by omega)
                  · exact above
                  · exact FilePath.parent_ends found
                  · exact refusal?_parent found accepted
                · exact makeFoldersFrom_of_barrier tree accepted leads named barred missing

theorem makeFolders_makes (tree : disk.IsTree) (leads : disk.placeOf? path = some place)
    (named : path.names = [] ∨ path.endsInName = true)
    (accepted : path.parent = none ∨ refusal? path = none) :
    Makes disk place (disk.makeFolders path) :=
  makeFoldersFrom_around tree (path.text.length + 1) (Nat.lt_succ_self _) leads named accepted

/-- A path that is refused is so before anything is made. -/
theorem makeFolders_refused {problem : DiskError} (inner : path.parent ≠ none)
    (refused : refusal? path = some problem) : disk.makeFolders path = (disk, .error problem) := by
  cases found : path.parent with
  | none => exact absurd found inner
  | some parent =>
      have shorter := FilePath.parent_length found
      have nonempty : path.text.isEmpty = false := by
        rw [String.isEmpty_eq_false_iff]
        intro empty
        rw [empty] at shorter
        simp at shorter
      have unmade : disk.makeFolder path = .error problem := by
        rw [makeFolder, locate_refused refused]
      rw [makeFolders, around, found]
      simp only [makeFoldersFrom, unmade]
      rw [refusal?, nonempty] at refused
      split at refused
      · cases refused
        rfl
      · rw [if_neg Bool.false_ne_true] at refused
        split at refused
        · cases refused
          rfl
        · cases refused

end ServiceStubs.Disk
