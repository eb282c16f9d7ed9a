import AdTargeting.Proofs.Evaluation.Replacement

set_option autoImplicit false

/-
Groups at the front of a scope. Terms are folded from the left, so the first terms of a scope may
stand in parentheses or not: the walk meets the same comparisons and comes to the same value.
-/

namespace AdTargeting

namespace Expression

/-- The first terms of a scope become a scope of their own. This takes at least one of them, unless
the scope is empty. -/
inductive Groups : Expression → Expression → Prop
  | front (front rest : List Term) (enough : front ≠ [] ∨ rest = []) :
      Groups (.scope (front ++ rest)) (.scope (⟨none, .scope front⟩ :: rest))

/-- The scope of the first terms, in a scope with the next term, in a scope with the next, and so
on. -/
def nested (front : List Term) : List Term → Expression
  | [] => .scope front
  | term :: later => nested [⟨none, .scope front⟩, term] later

theorem rewrites_nested {front : List Term} (later : List Term) (nonempty : front ≠ []) :
    Rewrites Groups (.scope (front ++ later)) (nested front later) := by
  induction later generalizing front with
  | nil =>
      rw [List.append_nil]
      exact .refl
  | cons term later ih =>
      have grouped : Replaces Groups (.scope (front ++ term :: later))
          (.scope (⟨none, .scope front⟩ :: term :: later)) :=
        .here (.front front (term :: later) (Or.inl nonempty))
      have onward : Rewrites Groups (.scope ([⟨none, .scope front⟩, term] ++ later))
          (nested [⟨none, .scope front⟩, term] later) := ih (List.cons_ne_nil _ _)
      exact .head grouped onward

variable {attributes : Attributes}

theorem exists_value {terms : List Term} {value : Option Bool} (nonempty : terms ≠ [])
    (visited : (visitTerms attributes none terms).result = .ok value) :
    ∃ current, value = some current := by
  obtain ⟨⟨relation, first⟩, later, rfl⟩ := List.exists_cons_of_ne_nil nonempty
  rw [visitTerms, bind_settle first.visit_result (visitTerms_result _ later)] at visited
  generalize (List.findSome? _ _).or _ = stop at visited
  cases stop with
  | some halt => cases visited
  | none =>
      cases visited
      exact ⟨_, rfl⟩

/-- A group at the front is walked through as its terms would be, and its value takes their
place. -/
theorem visit_of_groups {tree other : Expression} (groups : Groups tree other) :
    visit attributes tree = visit attributes other := by
  cases groups with
  | front front rest enough =>
      simp only [visit, visitTerms, visitTerms_append, Logged.bind_assoc, Logged.pure_bind]
      -- Behind the group both walks go on, from a value that is undetermined only without terms.
      apply Logged.bind_congr
      intro value visited
      rcases enough with nonempty | rfl
      · obtain ⟨current, rfl⟩ := exists_value nonempty visited
        rfl
      · rfl

theorem evaluate_of_visit {tree other : Expression}
    (same : visit attributes tree = visit attributes other) :
    tree.evaluate attributes = other.evaluate attributes := by
  rw [evaluate, evaluate, same]

theorem evaluate_of_groups {tree other : Expression} (rewrites : Rewrites Groups tree other) :
    tree.evaluate attributes = other.evaluate attributes :=
  evaluate_of_visit
    ((compositional_visit attributes).of_rewrites (fun _ _ => visit_of_groups) rewrites)

/-- Relations associate to the left. Groups may be made of the first terms of any scopes in a tree
without any change to its verdict, its error or what is recorded. In particular a second pair of
parentheses changes nothing, and any number of terms may be nested to the left one by one. -/
theorem groups_associate_left (attributes : Attributes) :
    (∀ tree other, Rewrites Groups tree other →
      tree.evaluate attributes = other.evaluate attributes) ∧
    (∀ terms, (scope terms).evaluate attributes =
      (scope [⟨none, scope terms⟩]).evaluate attributes) ∧
    ∀ front later, front ≠ [] →
      (scope (front ++ later)).evaluate attributes = (nested front later).evaluate attributes := by
  refine ⟨fun _ _ => evaluate_of_groups, ?_, ?_⟩
  · intro terms
    have doubled := @visit_of_groups attributes _ _ (.front terms [] (Or.inr rfl))
    rw [List.append_nil] at doubled
    exact evaluate_of_visit doubled
  · intro front later nonempty
    exact evaluate_of_groups (rewrites_nested later nonempty)

/-- A group in the middle of a tree, where the last term is an error that both trees come to, and a
row whose value depends on the way it is nested. -/
theorem groups_associate_left_inside :
    let attributes := NameMap.ofList [("age", .number (.ofInt 25)), ("city", .text "Rome")]
    let young : Comparison := ⟨"age", .less, .number (.ofInt 30), 4⟩
    let inRome : Comparison := ⟨"city", .equal, .text "Rome", 13⟩
    let inOslo : Comparison := ⟨"city", .equal, .text "Oslo", 25⟩
    let misfit : Comparison := ⟨"city", .equal, .number (.ofInt 3), 40⟩
    let row : List Term :=
      [⟨none, .compare young⟩, ⟨some .or, .compare inRome⟩, ⟨some .and, .compare inOslo⟩]
    let tree : Expression := .scope [⟨none, .scope row⟩, ⟨some .or, .compare misfit⟩]
    let group : Expression := .scope [⟨none, .compare young⟩, ⟨some .or, .compare inRome⟩]
    let other : Expression := .scope
      [⟨none, .scope [⟨none, group⟩, ⟨some .and, .compare inOslo⟩]⟩, ⟨some .or, .compare misfit⟩]
    Rewrites Groups tree other ∧ tree.evaluate attributes = other.evaluate attributes ∧
      (other.evaluate attributes).result = .error (.typeMismatch "city" .text .number 40) ∧
      (other.evaluate attributes).records =
        [.compared young true, .compared inRome true, .compared inOslo false] ∧
    ((scope row).evaluate attributes) = (nested (row.take 2) (row.drop 2)).evaluate attributes ∧
      ((scope row).evaluate attributes).result = .ok false := by
  intro attributes young inRome inOslo misfit row tree group other
  have grouped : Rewrites Groups tree other :=
    .single (.inside [] none [⟨some .or, .compare misfit⟩]
      (.here (.front (row.take 2) (row.drop 2) (Or.inl (List.cons_ne_nil _ _)))))
  obtain ⟨trees, -, rows⟩ := groups_associate_left attributes
  exact ⟨grouped, trees tree other grouped, by decide +kernel, by decide +kernel,
    rows (row.take 2) (row.drop 2) (List.cons_ne_nil _ _), by decide +kernel⟩

end Expression

end AdTargeting
