/-!
Lists held in strictly increasing order of a comparison. A set or a map whose
order an answer can show is such a list. `insert` replaces an element that
compares equal to the new one, so the last write under a key is the one kept.
-/

namespace ServiceStubs.Sorted

universe u
variable {α : Type u}

def insert (order : α → α → Ordering) (x : α) : List α → List α
  | [] => [x]
  | y :: rest =>
      match order x y with
      | .lt => x :: y :: rest
      | .eq => x :: rest
      | .gt => y :: insert order x rest

def insertAll (order : α → α → Ordering) (xs set : List α) : List α :=
  xs.foldl (fun found x => insert order x found) set

def ofList (order : α → α → Ordering) (xs : List α) : List α :=
  insertAll order xs []

def Increasing (order : α → α → Ordering) (xs : List α) : Prop :=
  xs.Pairwise fun x y => order x y = .lt

/-- A stable sort: elements that compare equal stay in the order given. -/
def sort (order : α → α → Ordering) (xs : List α) : List α :=
  xs.mergeSort fun x y => order x y != .gt

variable {order : α → α → Ordering}

theorem mem_of_mem_insert {x z : α} {xs : List α} (member : z ∈ insert order x xs) :
    z = x ∨ z ∈ xs := by
  induction xs with
  | nil => simpa [insert] using member
  | cons y rest ih =>
      unfold insert at member
      split at member
      · simpa using member
      · rcases List.mem_cons.1 member with same | later
        · exact .inl same
        · exact .inr (List.mem_cons_of_mem _ later)
      · rcases List.mem_cons.1 member with same | later
        · exact .inr (same ▸ List.mem_cons_self)
        · exact (ih later).imp_right (List.mem_cons_of_mem _)

theorem Increasing.insert [Std.TransCmp order] {xs : List α} (increasing : Increasing order xs)
    (x : α) : Increasing order (insert order x xs) := by
  induction xs with
  | nil => exact List.pairwise_singleton _ _
  | cons y rest ih =>
      obtain ⟨first, later⟩ := List.pairwise_cons.1 increasing
      unfold Sorted.insert
      split
      · rename_i before
        refine List.pairwise_cons.2 ⟨fun z member => ?_, increasing⟩
        rcases List.mem_cons.1 member with rfl | deeper
        · exact before
        · exact Std.TransCmp.lt_trans before (first z deeper)
      · rename_i same
        refine List.pairwise_cons.2 ⟨fun z member => ?_, later⟩
        exact Std.TransCmp.lt_of_eq_of_lt same (first z member)
      · rename_i after
        refine List.pairwise_cons.2 ⟨fun z member => ?_, ih later⟩
        rcases mem_of_mem_insert member with rfl | deeper
        · exact Std.OrientedCmp.lt_of_gt after
        · exact first z deeper

end ServiceStubs.Sorted
