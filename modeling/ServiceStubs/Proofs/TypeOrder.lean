import ServiceStubs.Proofs.TypeExpr
/-!
The order of types is a total order. Types of different kinds compare as their
kinds do; two containers compare by what they are of and then argument by
argument, so what holds of the arguments holds of the whole.
-/

namespace ServiceStubs

instance : Std.TransOrd Version :=
  inferInstanceAs (Std.TransCmp (compareLex (compareOn Version.major) (compareOn Version.minor)))

instance : Std.TransCmp ExternalType.order :=
  inferInstanceAs (Std.TransCmp (compareLex (compareOn ExternalType.module)
    (compareLex (compareOn ExternalType.name)
      (compareLex (compareOn ExternalType.minVersion) (compareOn ExternalType.fallbackModule)))))

structure Chains (lower upper whole : Ordering) : Prop where
  lt_lt : lower = .lt → upper = .lt → whole = .lt
  lt_eq : lower = .lt → upper = .eq → whole = .lt
  eq_lt : lower = .eq → upper = .lt → whole = .lt
  eq_eq : lower = .eq → upper = .eq → whole = .eq

theorem chains_of_trans {α : Type} {order : α → α → Ordering} [Std.TransCmp order] (x y z : α) :
    Chains (order x y) (order y z) (order x z) where
  lt_lt := Std.TransCmp.lt_trans
  lt_eq := Std.TransCmp.lt_of_lt_of_eq
  eq_lt := Std.TransCmp.lt_of_eq_of_lt
  eq_eq := Std.TransCmp.eq_trans

/-- Comparing by a first part and then by a second is transitive where both are. -/
theorem Chains.then_lt {lower upper whole : Ordering} (chains : Chains lower upper whole)
    {lower' upper' whole' : Ordering} (second : lower' = .lt → upper' = .lt → whole' = .lt)
    (below : lower.then lower' = .lt) (above : upper.then upper' = .lt) :
    whole.then whole' = .lt := by
  rw [Ordering.then_eq_lt] at below above ⊢
  rcases below with below | ⟨same, below⟩
  · rcases above with above | ⟨same', _⟩
    · exact Or.inl (chains.lt_lt below above)
    · exact Or.inl (chains.lt_eq below same')
  · rcases above with above | ⟨same', above⟩
    · exact Or.inl (chains.eq_lt same above)
    · exact Or.inr ⟨chains.eq_eq same same', second below above⟩

namespace TypeExpr
variable {a b c : TypeExpr}

theorem order_of_kind_ne (apart : a.kind ≠ b.kind) : a.order b = compare a.kind b.kind := by
  cases a <;> cases b <;> first | rfl | exact absurd rfl apart

theorem lt_of_kind_lt (below : a.kind < b.kind) : a.order b = .lt := by
  rw [order_of_kind_ne (Nat.ne_of_lt below), Nat.compare_eq_lt]
  exact below

theorem kind_le_of_lt (lower : a.order b = .lt) : a.kind ≤ b.kind := by
  by_cases alike : a.kind = b.kind
  · exact Nat.le_of_eq alike
  · rw [order_of_kind_ne alike, Nat.compare_eq_lt] at lower
    exact Nat.le_of_lt lower

/-- Between two types of one kind there is none of another. -/
theorem kind_lt_or_alike (lower : a.order b = .lt) (upper : b.order c = .lt) :
    a.kind < c.kind ∨ a.kind = b.kind ∧ b.kind = c.kind := by
  have first := kind_le_of_lt lower
  have second := kind_le_of_lt upper
  omega

mutual

theorem order_eq_swap : ∀ a b : TypeExpr, a.order b = (b.order a).swap
  | builtin _, b => by
      cases b with
      | builtin _ =>
          simp only [order]
          exact Std.OrientedCmp.eq_swap
      | _ => rfl
  | external _, b => by
      cases b with
      | external _ =>
          simp only [order]
          exact Std.OrientedCmp.eq_swap
      | _ => rfl
  | ref _, b => by
      cases b with
      | ref _ =>
          simp only [order]
          exact Std.OrientedCmp.eq_swap
      | _ => rfl
  | selfRef, b => by cases b <;> rfl
  | container outer args, b => by
      cases b with
      | container outer' args' =>
          have outers : outer.order outer' = (outer'.order outer).swap := Std.OrientedCmp.eq_swap
          simp only [order]
          rw [outers, orderAll_eq_swap args args', Ordering.swap_then]
      | _ => rfl
  | literal _, b => by
      cases b with
      | literal _ =>
          simp only [order]
          exact Std.OrientedCmp.eq_swap
      | _ => rfl

theorem orderAll_eq_swap : ∀ as bs : List TypeExpr, orderAll as bs = (orderAll bs as).swap
  | [], [] => rfl
  | [], _ :: _ => rfl
  | _ :: _, [] => rfl
  | a :: as, b :: bs => by
      simp only [orderAll]
      rw [order_eq_swap a b, orderAll_eq_swap as bs, Ordering.swap_then]

end

/-- Types that compare equal are equal, so only the strict part has to be looked at. -/
theorem chains_of_lt_trans
    (trans : a.order b = .lt → b.order c = .lt → a.order c = .lt) :
    Chains (a.order b) (b.order c) (a.order c) where
  lt_lt := trans
  lt_eq lower same := (order_eq_iff b c).1 same ▸ lower
  eq_lt same upper := (order_eq_iff a b).1 same ▸ upper
  eq_eq same same' := (order_eq_iff a c).2 <|
    ((order_eq_iff a b).1 same).trans ((order_eq_iff b c).1 same')

mutual

theorem order_lt_trans : ∀ {a b c : TypeExpr},
    a.order b = .lt → b.order c = .lt → a.order c = .lt
  | a, b, c, lower, upper => by
      rcases kind_lt_or_alike lower upper with below | ⟨first, second⟩
      · exact lt_of_kind_lt below
      cases a with
      | container outer args =>
          cases b <;> cases first
          cases c <;> cases second
          simp only [order] at lower upper ⊢
          exact (chains_of_trans outer _ _).then_lt orderAll_lt_trans lower upper
      | selfRef =>
          cases b <;> cases first
          cases lower
      | builtin | external | ref | literal =>
          cases b <;> cases first
          cases c <;> cases second
          simp only [order] at lower upper ⊢
          exact Std.TransCmp.lt_trans lower upper

theorem orderAll_lt_trans : ∀ {as bs cs : List TypeExpr},
    orderAll as bs = .lt → orderAll bs cs = .lt → orderAll as cs = .lt
  | [], _, _ :: _, _, _ => rfl
  | [], [], [], lower, _ => nomatch lower
  | [], _ :: _, [], _, upper => nomatch upper
  | _ :: _, [], _, lower, _ => nomatch lower
  | _ :: _, _ :: _, [], _, upper => nomatch upper
  | a :: as, b :: bs, c :: cs, lower, upper => by
      simp only [orderAll] at lower upper ⊢
      exact (chains_of_lt_trans order_lt_trans).then_lt orderAll_lt_trans lower upper

end

instance : Std.TransCmp order where
  eq_swap := order_eq_swap _ _
  isLE_trans := by
    intro a b c lower upper
    rw [Ordering.isLE_iff_eq_lt_or_eq_eq] at lower upper ⊢
    have chains : Chains (a.order b) (b.order c) (a.order c) := chains_of_lt_trans order_lt_trans
    rcases lower with lower | same
    · rcases upper with upper | same'
      · exact Or.inl (chains.lt_lt lower upper)
      · exact Or.inl (chains.lt_eq lower same')
    · rcases upper with upper | same'
      · exact Or.inl (chains.eq_lt same upper)
      · exact Or.inr (chains.eq_eq same same')

end TypeExpr

/-!
The order of types said without comparing: which of two different types goes
first, and why. Kinds go before kinds; within a kind the first part in which
the two differ decides, and a part that is absent goes before one that is
there. A list goes before its continuations.
-/

def Text.Precedes (a b : String) : Prop :=
  List.Lex (fun c d : Char => c.toNat < d.toNat) a.toList b.toList

theorem Text.compare_eq_lt_iff {a b : String} : compare a b = .lt ↔ Text.Precedes a b :=
  compareOfLessAndEq_eq_lt

def Version.Precedes (a b : Version) : Prop :=
  a.major.toNat < b.major.toNat ∨ a.major = b.major ∧ a.minor.toNat < b.minor.toNat

theorem Version.compare_eq_lt_iff {a b : Version} : compare a b = .lt ↔ a.Precedes b := by
  change a.order b = .lt ↔ _
  simp only [order, Ordering.then_eq_lt, Std.compare_eq_lt, Std.compare_eq_iff_eq,
    UInt8.lt_iff_toNat_lt, Precedes]

theorem compareLex_eq_lt_iff {α : Type} {compare : α → α → Ordering} [Std.LawfulEqCmp compare]
    {precedes : α → α → Prop} (lower : ∀ a b, compare a b = .lt ↔ precedes a b) :
    ∀ as bs, List.compareLex compare as bs = .lt ↔ List.Lex precedes as bs
  | [], [] => by simp [List.compareLex]
  | [], b :: bs => by simp [List.compareLex]
  | a :: as, [] => by simp [List.compareLex]
  | a :: as, b :: bs => by
      rw [List.compareLex_cons_cons, Ordering.then_eq_lt, lower, Std.LawfulEqCmp.compare_eq_iff_eq,
        compareLex_eq_lt_iff lower as bs, List.cons_lex_cons_iff]

theorem compareOption_eq_lt_iff {α : Type} [Ord α] {precedes : α → α → Prop}
    (lower : ∀ a b : α, compare a b = .lt ↔ precedes a b) :
    ∀ a b : Option α, compare a b = .lt ↔ Option.lt precedes a b
  | none, none => iff_of_false nofun nofun
  | none, some _ => iff_of_true rfl trivial
  | some _, none => iff_of_false nofun nofun
  | some a, some b => lower a b

namespace ExternalType

inductive Precedes (a b : ExternalType) : Prop
  | module (lower : Text.Precedes a.module b.module)
  | name (module : a.module = b.module) (lower : Text.Precedes a.name b.name)
  | version (module : a.module = b.module) (name : a.name = b.name)
      (lower : Option.lt Version.Precedes a.minVersion b.minVersion)
  | fallback (module : a.module = b.module) (name : a.name = b.name)
      (version : a.minVersion = b.minVersion)
      (lower : Option.lt Text.Precedes a.fallbackModule b.fallbackModule)

theorem order_eq_lt_iff {a b : ExternalType} : a.order b = .lt ↔ a.Precedes b := by
  simp only [order, Ordering.then_eq_lt, Text.compare_eq_lt_iff, Std.compare_eq_iff_eq,
    compareOption_eq_lt_iff fun _ _ => Version.compare_eq_lt_iff,
    compareOption_eq_lt_iff fun _ _ => Text.compare_eq_lt_iff]
  constructor
  · rintro (lower | ⟨module, lower | ⟨name, lower | ⟨version, lower⟩⟩⟩)
    · exact .module lower
    · exact .name module lower
    · exact .version module name lower
    · exact .fallback module name version lower
  · rintro (lower | ⟨module, lower⟩ | ⟨module, name, lower⟩ | ⟨module, name, version, lower⟩)
    · exact Or.inl lower
    · exact Or.inr ⟨module, Or.inl lower⟩
    · exact Or.inr ⟨module, Or.inr ⟨name, Or.inl lower⟩⟩
    · exact Or.inr ⟨module, Or.inr ⟨name, Or.inr ⟨version, lower⟩⟩⟩

end ExternalType

namespace TypeExpr

inductive Precedes : TypeExpr → TypeExpr → Prop
  | kind {a b : TypeExpr} (lower : a.kind < b.kind) : Precedes a b
  | builtin {a b : String} (lower : Text.Precedes a b) : Precedes (.builtin a) (.builtin b)
  | external {a b : ExternalType} (lower : a.Precedes b) : Precedes (.external a) (.external b)
  | ref {a b : String} (lower : Text.Precedes a b) : Precedes (.ref a) (.ref b)
  | outer {a b : ExternalType} {as bs : List TypeExpr} (lower : a.Precedes b) :
      Precedes (.container a as) (.container b bs)
  | args {outer : ExternalType} {as bs : List TypeExpr} (lower : List.Lex Precedes as bs) :
      Precedes (.container outer as) (.container outer bs)
  | literal {as bs : List String} (lower : List.Lex Text.Precedes as bs) :
      Precedes (.literal as) (.literal bs)

theorem precedes_of_kind_ne {a b : TypeExpr} (apart : a.kind ≠ b.kind) :
    a.Precedes b ↔ a.kind < b.kind := by
  constructor
  · rintro (lower | _ | _ | _ | _ | _ | _)
    · exact lower
    all_goals exact absurd rfl apart
  · exact Precedes.kind

mutual

theorem order_eq_lt_iff : ∀ a b : TypeExpr, a.order b = .lt ↔ a.Precedes b
  | a, b => by
      by_cases alike : a.kind = b.kind
      · cases a with
        | builtin name =>
            cases b <;> cases alike
            rw [order, Text.compare_eq_lt_iff]
            exact ⟨.builtin, fun
              | .kind lower => absurd lower (Nat.lt_irrefl _)
              | .builtin lower => lower⟩
        | external type =>
            cases b <;> cases alike
            rw [order, ExternalType.order_eq_lt_iff]
            exact ⟨.external, fun
              | .kind lower => absurd lower (Nat.lt_irrefl _)
              | .external lower => lower⟩
        | ref name =>
            cases b <;> cases alike
            rw [order, Text.compare_eq_lt_iff]
            exact ⟨.ref, fun
              | .kind lower => absurd lower (Nat.lt_irrefl _)
              | .ref lower => lower⟩
        | selfRef =>
            cases b <;> cases alike
            exact ⟨nofun, fun | .kind lower => absurd lower (Nat.lt_irrefl _)⟩
        | container outer args =>
            cases b <;> cases alike
            rw [order, Ordering.then_eq_lt, ExternalType.order_eq_lt_iff, ExternalType.order_eq_iff,
              orderAll_eq_lt_iff]
            constructor
            · rintro (lower | ⟨rfl, lower⟩)
              · exact .outer lower
              · exact .args lower
            · rintro (lower | _ | _ | _ | lower | lower | _)
              · exact absurd lower (Nat.lt_irrefl _)
              · exact Or.inl lower
              · exact Or.inr ⟨rfl, lower⟩
        | literal values =>
            cases b <;> cases alike
            rw [order, List.compare_eq_compareLex,
              compareLex_eq_lt_iff fun _ _ => Text.compare_eq_lt_iff]
            exact ⟨.literal, fun
              | .kind lower => absurd lower (Nat.lt_irrefl _)
              | .literal lower => lower⟩
      · rw [order_of_kind_ne alike, Nat.compare_eq_lt, precedes_of_kind_ne alike]

theorem orderAll_eq_lt_iff :
    ∀ as bs : List TypeExpr, orderAll as bs = .lt ↔ List.Lex Precedes as bs
  | [], [] => by simp [orderAll]
  | [], _ :: _ => by simp [orderAll]
  | _ :: _, [] => by simp [orderAll]
  | a :: as, b :: bs => by
      rw [orderAll, Ordering.then_eq_lt, order_eq_lt_iff a b, order_eq_iff,
        orderAll_eq_lt_iff as bs, List.cons_lex_cons_iff]

end

end TypeExpr

end ServiceStubs
