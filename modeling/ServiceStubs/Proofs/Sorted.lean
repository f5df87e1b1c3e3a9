import ServiceStubs.Sorted
/-!
Which elements an increasing list has. Under an order that tells different
elements apart an insertion loses nothing; under an order by a key it loses the
element whose key it brings again, so the last one given under a key is kept. An
increasing list has one element for each key, which is found by it, and is
determined by its elements.
-/

namespace ServiceStubs.Sorted

universe u
variable {α : Type u} {order : α → α → Ordering}

theorem mem_insert_self (x : α) (xs : List α) : x ∈ insert order x xs := by
  induction xs with
  | nil => exact List.mem_cons_self
  | cons y rest ih =>
      unfold insert
      split
      · exact List.mem_cons_self
      · exact List.mem_cons_self
      · exact List.mem_cons_of_mem y ih

theorem mem_insert_of_mem {x z : α} {xs : List α} (member : z ∈ xs)
    (distinct : order x z ≠ .eq) : z ∈ insert order x xs := by
  induction xs with
  | nil => cases member
  | cons y rest ih =>
      unfold insert
      split
      · exact List.mem_cons_of_mem x member
      · rename_i same
        rcases List.mem_cons.1 member with rfl | later
        · exact absurd same distinct
        · exact List.mem_cons_of_mem x later
      · rcases List.mem_cons.1 member with rfl | later
        · exact List.mem_cons_self
        · exact List.mem_cons_of_mem y (ih later)

theorem insert_perm {x : α} {xs : List α} (distinct : ∀ y ∈ xs, order x y ≠ .eq) :
    (insert order x xs).Perm (x :: xs) := by
  induction xs with
  | nil => exact List.Perm.refl _
  | cons y rest ih =>
      unfold insert
      split
      · exact List.Perm.refl _
      · rename_i same
        exact absurd same (distinct y List.mem_cons_self)
      · have later := ih fun z member => distinct z (List.mem_cons_of_mem y member)
        exact (later.cons y).trans (List.Perm.swap x y rest)

theorem mem_insert_of_distinct {x z : α} {xs : List α}
    (distinct : ∀ y ∈ xs, order x y ≠ .eq) : z ∈ insert order x xs ↔ z = x ∨ z ∈ xs := by
  rw [(insert_perm distinct).mem_iff, List.mem_cons]

theorem mem_insert [Std.LawfulEqCmp order] {x z : α} {xs : List α} :
    z ∈ insert order x xs ↔ z = x ∨ z ∈ xs := by
  constructor
  · exact mem_of_mem_insert
  · rintro (rfl | member)
    · exact mem_insert_self z xs
    · by_cases same : order x z = .eq
      · have equal : x = z := Std.LawfulEqCmp.eq_of_compare same
        exact equal ▸ mem_insert_self x xs
      · exact mem_insert_of_mem member same

theorem exists_mem_insert_iff [Std.TransCmp order] {x key : α} {xs : List α} :
    (∃ z ∈ insert order x xs, order z key = .eq) ↔
      order x key = .eq ∨ ∃ z ∈ xs, order z key = .eq := by
  constructor
  · rintro ⟨z, member, same⟩
    rcases mem_of_mem_insert member with rfl | earlier
    · exact Or.inl same
    · exact Or.inr ⟨z, earlier, same⟩
  · rintro (same | ⟨z, member, same⟩)
    · exact ⟨x, mem_insert_self x xs, same⟩
    · by_cases replaced : order x z = .eq
      · exact ⟨x, mem_insert_self x xs, Std.TransCmp.eq_trans replaced same⟩
      · exact ⟨z, mem_insert_of_mem member replaced, same⟩

theorem mem_of_mem_insertAll {z : α} {xs set : List α}
    (member : z ∈ insertAll order xs set) : z ∈ xs ∨ z ∈ set := by
  induction xs generalizing set with
  | nil => exact Or.inr member
  | cons x rest ih =>
      rcases ih member with later | found
      · exact Or.inl (List.mem_cons_of_mem x later)
      · rcases mem_of_mem_insert found with rfl | earlier
        · exact Or.inl List.mem_cons_self
        · exact Or.inr earlier

theorem mem_of_mem_ofList {z : α} {xs : List α} (member : z ∈ ofList order xs) : z ∈ xs := by
  rcases mem_of_mem_insertAll member with listed | nowhere
  · exact listed
  · cases nowhere

theorem mem_insertAll [Std.LawfulEqCmp order] {z : α} {xs set : List α} :
    z ∈ insertAll order xs set ↔ z ∈ xs ∨ z ∈ set := by
  induction xs generalizing set with
  | nil => simp [insertAll]
  | cons x rest ih =>
      change z ∈ insertAll order rest (insert order x set) ↔ _
      rw [ih, mem_insert, List.mem_cons, or_left_comm, or_assoc]

theorem mem_ofList [Std.LawfulEqCmp order] {z : α} {xs : List α} :
    z ∈ ofList order xs ↔ z ∈ xs := by
  simp [ofList, mem_insertAll]

theorem exists_mem_insertAll_iff [Std.TransCmp order] {key : α} {xs set : List α} :
    (∃ z ∈ insertAll order xs set, order z key = .eq) ↔
      (∃ x ∈ xs, order x key = .eq) ∨ ∃ z ∈ set, order z key = .eq := by
  induction xs generalizing set with
  | nil => simp [insertAll]
  | cons x rest ih =>
      change (∃ z ∈ insertAll order rest (insert order x set), order z key = .eq) ↔ _
      rw [ih, exists_mem_insert_iff]
      simp only [List.mem_cons, or_and_right, exists_or, exists_eq_left]
      rw [or_left_comm, or_assoc]

theorem exists_mem_ofList_iff [Std.TransCmp order] {key : α} {xs : List α} :
    (∃ z ∈ ofList order xs, order z key = .eq) ↔ ∃ x ∈ xs, order x key = .eq := by
  simp [ofList, exists_mem_insertAll_iff]

/-- What elements have in common that compare equal is there of those kept as of those given. -/
theorem mem_map_ofList {β : Type u} [Std.TransCmp order] {f : α → β} {xs : List α}
    (alike : ∀ x ∈ xs, ∀ y ∈ xs, order x y = .eq → f x = f y) {k : β} :
    k ∈ (ofList order xs).map f ↔ k ∈ xs.map f := by
  constructor
  · intro member
    obtain ⟨z, listed, rfl⟩ := List.mem_map.1 member
    exact List.mem_map_of_mem (mem_of_mem_ofList listed)
  · intro member
    obtain ⟨x, given, rfl⟩ := List.mem_map.1 member
    obtain ⟨z, listed, same⟩ :=
      exists_mem_ofList_iff.2 ⟨x, given, (Std.ReflCmp.compare_self : order x x = .eq)⟩
    exact List.mem_map.2 ⟨z, listed, alike z (mem_of_mem_ofList listed) x given same⟩

/-- Where only equal elements are given that compare equal, none of them is lost. -/
theorem mem_ofList_of_alike [Std.TransCmp order] {z : α} {xs : List α}
    (alike : ∀ x ∈ xs, ∀ y ∈ xs, order x y = .eq → x = y) : z ∈ ofList order xs ↔ z ∈ xs := by
  have kept : z ∈ (ofList order xs).map id ↔ z ∈ xs.map id := mem_map_ofList alike
  rwa [List.map_id, List.map_id] at kept

theorem Increasing.distinct {xs : List α} (increasing : Increasing order xs) :
    xs.Pairwise fun x y => order x y ≠ .eq :=
  List.Pairwise.imp (fun before same => by rw [before] at same; cases same) increasing

/-- Where the order goes by a key, the keys kept are the keys given. -/
theorem mem_keys_ofList {β : Type u} [Std.TransCmp order] {key : α → β}
    (byKey : ∀ x y, order x y = .eq ↔ key x = key y) {xs : List α} {k : β} :
    k ∈ (ofList order xs).map key ↔ k ∈ xs.map key :=
  mem_map_ofList fun x _ y _ same => (byKey x y).1 same

/-- The element is the last of those in the list that compare equal to it. -/
def LastOf (order : α → α → Ordering) (xs : List α) (z : α) : Prop :=
  ∃ before after, xs = before ++ z :: after ∧ ∀ later ∈ after, order later z ≠ .eq

theorem not_lastOf_nil {z : α} : ¬ LastOf order [] z := by
  rintro ⟨before, after, split, _⟩
  simp at split

theorem lastOf_cons {x z : α} {xs : List α} :
    LastOf order (x :: xs) z ↔ LastOf order xs z ∨ z = x ∧ ∀ later ∈ xs, order later z ≠ .eq := by
  constructor
  · rintro ⟨before, after, split, last⟩
    rcases List.cons_eq_append_iff.1 split with ⟨rfl, here⟩ | ⟨rest, rfl, there⟩
    · cases here
      exact Or.inr ⟨rfl, last⟩
    · exact Or.inl ⟨rest, after, there, last⟩
  · rintro (⟨before, after, rfl, last⟩ | ⟨rfl, last⟩)
    · exact ⟨x :: before, after, rfl, last⟩
    · exact ⟨[], xs, rfl, last⟩

section Increasing
variable [Std.TransCmp order]

theorem Increasing.insertAll {xs set : List α} (increasing : Increasing order set) :
    Increasing order (insertAll order xs set) := by
  induction xs generalizing set with
  | nil => exact increasing
  | cons x rest ih => exact ih (increasing.insert x)

theorem increasing_ofList (xs : List α) : Increasing order (ofList order xs) :=
  Increasing.insertAll List.Pairwise.nil

theorem Increasing.nodup {xs : List α} (increasing : Increasing order xs) : xs.Nodup := by
  refine List.Pairwise.imp (fun {x y} before same => ?_) increasing
  subst same
  exact Std.OrientedCmp.not_lt_of_lt before before

theorem Increasing.eq_of_order_eq {xs : List α} (increasing : Increasing order xs) {x y : α}
    (first : x ∈ xs) (second : y ∈ xs) (same : order x y = .eq) : x = y := by
  obtain ⟨i, inside, rfl⟩ := List.mem_iff_getElem.1 first
  obtain ⟨j, inside', rfl⟩ := List.mem_iff_getElem.1 second
  rcases Nat.lt_trichotomy i j with before | rfl | after
  · have below := List.pairwise_iff_getElem.1 increasing i j inside inside' before
    rw [same] at below
    cases below
  · rfl
  · have below := List.pairwise_iff_getElem.1 increasing j i inside' inside after
    rw [Std.OrientedCmp.eq_symm same] at below
    cases below

/-- An insertion keeps all that does not compare equal to the new element. -/
theorem Increasing.mem_insert {xs : List α} (increasing : Increasing order xs) {x z : α} :
    z ∈ Sorted.insert order x xs ↔ z = x ∨ z ∈ xs ∧ order x z ≠ .eq := by
  constructor
  · intro member
    rcases mem_of_mem_insert member with same | earlier
    · exact Or.inl same
    · by_cases same : order x z = .eq
      · exact Or.inl ((increasing.insert x).eq_of_order_eq (mem_insert_self x xs) member same).symm
      · exact Or.inr ⟨earlier, same⟩
  · rintro (rfl | ⟨earlier, distinct⟩)
    · exact mem_insert_self z xs
    · exact mem_insert_of_mem earlier distinct

theorem Increasing.mem_insertAll_iff_last {xs set : List α} (increasing : Increasing order set)
    {z : α} : z ∈ Sorted.insertAll order xs set ↔
      LastOf order xs z ∨ z ∈ set ∧ ∀ x ∈ xs, order x z ≠ .eq := by
  induction xs generalizing set with
  | nil => simp [Sorted.insertAll, not_lastOf_nil]
  | cons x rest ih =>
      change z ∈ Sorted.insertAll order rest (Sorted.insert order x set) ↔ _
      rw [ih (increasing.insert x), increasing.mem_insert, lastOf_cons, List.forall_mem_cons,
        or_and_right, or_assoc, and_assoc]

/-- Of the elements given that compare equal the last one is kept. -/
theorem mem_ofList_iff_last {xs : List α} {z : α} : z ∈ ofList order xs ↔ LastOf order xs z := by
  have nothing : Increasing order ([] : List α) := List.Pairwise.nil
  rw [ofList, nothing.mem_insertAll_iff_last]
  simp

theorem Increasing.eq_of_mem_iff {xs ys : List α} (left : Increasing order xs)
    (right : Increasing order ys) (members : ∀ z, z ∈ xs ↔ z ∈ ys) : xs = ys := by
  have rearranged : xs.Perm ys :=
    (List.perm_ext_iff_of_nodup left.nodup right.nodup).2 members
  refine List.Perm.eq_of_pairwise (fun x y _ _ before after => ?_) left right rearranged
  exact absurd after (Std.OrientedCmp.not_lt_of_lt before)

/-- What stands before an element is what compares below it. -/
theorem Increasing.mem_before_iff {before after : List α} {x y : α}
    (increasing : Increasing order (before ++ y :: after)) (member : x ∈ before ++ y :: after) :
    x ∈ before ↔ order x y = .lt := by
  obtain ⟨_, tail, apart⟩ := List.pairwise_append.1 increasing
  constructor
  · intro earlier
    exact apart x earlier y List.mem_cons_self
  · intro below
    rcases List.mem_append.1 member with earlier | later
    · exact earlier
    · rcases List.mem_cons.1 later with rfl | after
      · exact absurd below (Std.OrientedCmp.not_lt_of_lt below)
      · have above := (List.pairwise_cons.1 tail).1 x after
        exact absurd below (Std.OrientedCmp.not_lt_of_lt above)

/-- An element that compares below another stands before it. -/
theorem Increasing.index_lt {xs : List α} (increasing : Increasing order xs) {i j : Nat} {x y : α}
    (first : xs[i]? = some x) (second : xs[j]? = some y) (below : order x y = .lt) : i < j := by
  obtain ⟨inside, rfl⟩ := List.getElem?_eq_some_iff.1 first
  obtain ⟨inside', rfl⟩ := List.getElem?_eq_some_iff.1 second
  rcases Nat.lt_trichotomy i j with before | rfl | after
  · exact before
  · exact absurd below (Std.OrientedCmp.not_lt_of_lt below)
  · have above := List.pairwise_iff_getElem.1 increasing j i inside' inside after
    exact absurd below (Std.OrientedCmp.not_lt_of_lt above)

end Increasing

/-- In a list with one element for each key, an element is found by its key. -/
theorem find?_key_of_mem {key : α → String} {xs : List α} (distinct : (xs.map key).Nodup) {x : α}
    (member : x ∈ xs) : xs.find? (key · == key x) = some x := by
  induction xs with
  | nil => cases member
  | cons first rest ih =>
      obtain ⟨fresh, later⟩ := List.nodup_cons.1 distinct
      rcases List.mem_cons.1 member with rfl | deeper
      · simp
      · have other : key first ≠ key x := fun same => fresh (List.mem_map.2 ⟨x, deeper, same.symm⟩)
        rw [List.find?_cons_of_neg (by simpa using other)]
        exact ih later deeper

theorem mem_sort {x : α} {xs : List α} : x ∈ sort order xs ↔ x ∈ xs :=
  List.mem_mergeSort

theorem ne_gt_eq_isLE (x y : α) : (order x y != .gt) = (order x y).isLE := by
  cases order x y <;> rfl

section Stable
variable [Std.TransCmp order]

theorem ne_gt_trans (x y z : α) :
    order x y != .gt → order y z != .gt → order x z != .gt := by
  simp only [ne_gt_eq_isLE]
  exact Std.TransCmp.isLE_trans

theorem ne_gt_total (x y : α) : order x y != .gt || order y x != .gt := by
  rw [(Std.OrientedCmp.eq_swap : order y x = (order x y).swap)]
  cases order x y <;> rfl

theorem pairwise_sort (xs : List α) :
    (sort order xs).Pairwise fun x y => (order x y).isLE := by
  have sorted : (sort order xs).Pairwise fun x y => order x y != .gt :=
    List.pairwise_mergeSort ne_gt_trans ne_gt_total xs
  exact sorted.imp fun before => by rwa [ne_gt_eq_isLE] at before

/-- Where no two elements compare equal, each of the sorted ones comes before all later ones. -/
theorem increasing_sort {xs : List α} (apart : xs.Pairwise fun x y => order x y ≠ .eq) :
    Increasing order (sort order xs) := by
  have apart' : (sort order xs).Pairwise fun x y => order x y ≠ .eq := by
    refine ((List.mergeSort_perm xs _).pairwise_iff fun {x y} differs same => ?_).2 apart
    exact differs (Std.OrientedCmp.eq_symm same)
  refine ((pairwise_sort xs).and apart').imp fun {x y} ⟨before, differs⟩ => ?_
  cases placed : order x y <;> simp_all

/-- Sorting leaves elements that compare equal in the order given. -/
theorem filter_sort {p : α → Bool} (alike : ∀ x y, p x → p y → order x y = .eq) (xs : List α) :
    (sort order xs).filter p = xs.filter p := by
  have sorted : (xs.filter p).Pairwise fun x y => order x y != .gt := by
    refine List.pairwise_of_forall_mem_list fun x first y second => ?_
    rw [alike x y (List.mem_filter.1 first).2 (List.mem_filter.1 second).2]
    rfl
  have kept : (xs.filter p).Sublist (sort order xs) :=
    List.sublist_mergeSort ne_gt_trans ne_gt_total sorted List.filter_sublist
  have within := kept.filter p
  rw [List.filter_filter] at within
  simp only [Bool.and_self] at within
  exact (within.eq_of_length ((List.mergeSort_perm xs _).filter p).length_eq.symm).symm

theorem find?_sort {p : α → Bool} (alike : ∀ x y, p x → p y → order x y = .eq) (xs : List α) :
    (sort order xs).find? p = xs.find? p := by
  rw [← List.head?_filter, ← List.head?_filter, filter_sort alike]

end Stable

end ServiceStubs.Sorted
