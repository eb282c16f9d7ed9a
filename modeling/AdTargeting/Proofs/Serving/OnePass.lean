import AdTargeting.Proofs.Condition.Printable
import AdTargeting.Proofs.Serving.Blank
import AdTargeting.Proofs.Serving.Scan

set_option autoImplicit false

/-
On every condition that parses, serving it while it is read comes to what parsing and then
evaluating comes to. The frames of the scan hold the values of what parsing has read so far.
-/

namespace AdTargeting

variable {options : Options} {attributes : Attributes}

namespace Expression

/-- The value of the terms of a scope, undetermined when there are none. -/
def termsValue (attributes : Attributes) : List Term → Option Bool
  | [] => none
  | ⟨_, expression⟩ :: later => some (holdsAfter attributes (holds attributes expression) later)

theorem holds_scope (terms : List Term) :
    holds attributes (.scope terms) = (termsValue attributes terms).getD true := by
  cases terms with
  | nil => rfl
  | cons term later =>
      obtain ⟨relation, first⟩ := term
      simp only [holds, termsValue, Option.getD_some]

theorem holdsAfter_concat (current : Bool) (terms : List Term) (relation : Relation)
    (expression : Expression) :
    holdsAfter attributes current (terms ++ [⟨some relation, expression⟩]) =
      relation.apply (holdsAfter attributes current terms) (holds attributes expression) := by
  rw [holdsAfter_append, holdsAfter_related, holdsAfter]

/-- A frame that holds the value of a scope's terms keeps doing so when a term joins them. -/
theorem combine_termsValue (attributes : Attributes) {terms : List Term}
    {read joined : Option Relation}
    (joins : Joins terms read joined) (expression : Expression) :
    Frame.combine ⟨termsValue attributes terms, read⟩ (holds attributes expression) =
      ⟨termsValue attributes (terms ++ [⟨joined, expression⟩]), none⟩ := by
  cases joins with
  | first read => rfl
  | later relation nonempty =>
      obtain ⟨⟨unrelated, first⟩, others, rfl⟩ := List.exists_cons_of_ne_nil nonempty
      rw [List.cons_append, termsValue, termsValue, holdsAfter_concat]
      exact Frame.combine_related _ relation _

end Expression

namespace Progress

/-- What the scan knows where parsing has got to: the value of each open scope. -/
def frames (attributes : Attributes) (progress : Progress) : Frames where
  inner := ⟨Expression.termsValue attributes progress.terms, progress.relation⟩
  outer := progress.enclosing.map fun outer =>
    ⟨Expression.termsValue attributes outer.terms, outer.relation⟩

/-- Adding a term to the scope that is being read is combining its truth into the frames. -/
theorem frames_add (attributes : Attributes) {terms : List Term} {read joined : Option Relation}
    (joins : Joins terms read joined) (enclosing : List Interrupted) (expression : Expression) :
    frames attributes ⟨terms ++ [⟨joined, expression⟩], none, enclosing⟩ =
      (frames attributes ⟨terms, read, enclosing⟩).combine
        (Expression.holds attributes expression) := by
  simp only [frames, Frames.combine, Expression.combine_termsValue attributes joins]

def comparisons (progress : Progress) : List Comparison :=
  (progress.enclosing.reverse.flatMap fun outer => Expression.termComparisons outer.terms) ++
    Expression.termComparisons progress.terms

theorem comparisons_opening (terms : List Term) (read : Option Relation)
    (enclosing : List Interrupted) (position : Nat) :
    comparisons ⟨[], none, ⟨terms, read, position⟩ :: enclosing⟩ =
      comparisons ⟨terms, read, enclosing⟩ := by
  simp [comparisons, Expression.termComparisons]

theorem comparisons_closing (terms inner : List Term) (read pending joined : Option Relation)
    (enclosing : List Interrupted) (position : Nat) :
    comparisons ⟨terms ++ [⟨joined, .scope inner⟩], none, enclosing⟩ =
      comparisons ⟨inner, pending, ⟨terms, read, position⟩ :: enclosing⟩ := by
  simp [comparisons, Expression.termComparisons_concat, Expression.comparisons]

theorem comparisons_comparison (terms : List Term) (read joined : Option Relation)
    (enclosing : List Interrupted) (comparison : Comparison) :
    comparisons ⟨terms ++ [⟨joined, .compare comparison⟩], none, enclosing⟩ =
      comparisons ⟨terms, read, enclosing⟩ ++ [comparison] := by
  simp [comparisons, Expression.termComparisons_concat, Expression.comparisons]

theorem Advances.comparisons_grow {progress next : Progress} {token : Token}
    (advances : Advances options progress token next) :
    progress.comparisons <+: next.comparisons := by
  cases advances with
  | opening terms read enclosing position =>
      simp only [comparisons_opening, List.prefix_rfl]
  | @closing terms inner read pending joined joins enclosing first last =>
      have kept := comparisons_closing terms inner read pending joined enclosing first
      simp only [kept, List.prefix_rfl]
  | relation terms read enclosing value doubled => exact List.prefix_rfl
  | @comparison terms read joined joins enclosing name start operator position =>
      rw [comparisons_comparison terms read]
      exact List.prefix_append _ _
  | stray progress name start => exact List.prefix_rfl

namespace Leads

variable {progress : Progress} {tree : Expression}

theorem of_unused {name : NamePart} {rest : List Token}
    (leads : Leads options progress (name.unused ++ rest) tree) :
    Leads options progress rest tree := by
  cases name with
  | none => exact leads
  | begun start first read =>
      obtain ⟨next, advances, later⟩ := leads.advances
      cases advances
      exact later

theorem comparisons_grow {rest : List Token} (leads : Leads options progress rest tree) :
    progress.comparisons <+: tree.comparisons := by
  induction rest generalizing progress with
  | nil =>
      obtain ⟨closed, rfl⟩ := leads.finished
      simp [comparisons, closed, Expression.comparisons]
  | cons token rest ih =>
      obtain ⟨next, advances, later⟩ := leads.advances
      exact advances.comparisons_grow.trans (ih later)

end Leads

end Progress

section Comparing

variable {comparison : Comparison} {tree : Expression}

theorem evaluate_of_halts {before : List Comparison} {outcome : Except ConditionError Bool}
    (split : before ++ [comparison] <+: tree.comparisons)
    (runs : ∀ earlier ∈ before, ¬ earlier.Halting attributes)
    (halts : comparison.Halts attributes outcome) :
    (tree.evaluate attributes).result = outcome := by
  obtain ⟨after, whole⟩ := split
  obtain ⟨halt, stops, rfl⟩ := Comparison.halts_iff.mp halts
  apply Expression.evaluate_of_stop
  apply List.findSome?_eq_some_iff.mpr
  refine ⟨before, comparison, after, ?_, stops, ?_⟩
  · rw [← whole, List.append_assoc, List.singleton_append]
  · intro earlier member
    exact Comparison.halt?_eq_none.mpr (runs earlier member)

end Comparing

/-- Where no comparison read so far halts, the scan comes to the verdict on the tree. -/
theorem serveFrom_of_leads {name : NamePart} {position : Nat} {text : List Char}
    {row : List Token} (spelled : Token.Spells name position text row) {progress : Progress}
    {tree : Expression} (leads : Progress.Leads options progress row tree)
    (runs : ∀ comparison ∈ progress.comparisons, ¬ comparison.Halting attributes) :
    serveFrom options attributes (progress.frames attributes) name.text position text =
      (tree.evaluate attributes).result := by
  induction spelled generalizing progress with
  | finish name position =>
      rw [← List.append_nil name.unused] at leads
      obtain ⟨closed, rfl⟩ := leads.of_unused.finished
      have run : (Expression.scope progress.terms).comparisons.findSome?
          (Comparison.halt? attributes) = none := by
        apply Expression.stop_eq_none_iff.mpr
        intro comparison member
        apply runs
        simpa [Progress.comparisons, closed, Expression.comparisons] using member
      rw [serveFrom_nil, Expression.evaluate_of_run run, Expression.holds_scope, Frames.bottom,
        Progress.frames, closed]
      rfl
  | @opening name position rest row later ih =>
      obtain ⟨next, advances, leads⟩ := leads.of_unused.advances
      cases advances with
      | opening terms read enclosing =>
          rw [serveFrom_opening]
          apply ih leads
          rw [Progress.comparisons_opening]
          exact runs
  | @closing name position rest row later ih =>
      obtain ⟨next, advances, leads⟩ := leads.of_unused.advances
      cases advances with
      | @closing terms inner read pending joined joins enclosing first =>
          have read_on := ih leads (by
            rw [Progress.comparisons_closing]
            exact runs)
          rw [Progress.frames_add attributes joins, Expression.holds_scope] at read_on
          rw [← read_on]
          exact serveFrom_closing _ _ _ _ _ _ _ _
  | @single name position rest row value alone later ih =>
      obtain ⟨next, advances, leads⟩ := leads.of_unused.advances
      cases advances with
      | relation terms read enclosing =>
          rw [serveFrom_single _ _ _ _ _ _ value alone]
          exact ih leads runs
  | @doubled name position rest row value later ih =>
      obtain ⟨next, advances, leads⟩ := leads.of_unused.advances
      cases advances with
      | relation terms read enclosing =>
          rw [serveFrom_doubled]
          exact ih leads runs
  | @comparison name position rest row operator text longest inside boundary later ih =>
      obtain ⟨next, advances, leads⟩ := leads.advances
      cases advances with
      | @comparison terms read joined joins enclosing _ _ _ _ _ literal nonempty classified =>
          have added := Progress.comparisons_comparison terms read joined enclosing
            ⟨name.text, operator, literal, position⟩
          by_cases halting : Comparison.Halting attributes ⟨name.text, operator, literal, position⟩
          · obtain ⟨outcome, halts⟩ := halting
            have split := leads.comparisons_grow
            rw [added] at split
            rw [evaluate_of_halts split runs halts]
            exact serveFrom_of_halts _ _ _ _ _ _ operator longest inside boundary nonempty
              classified halts
          · have read_on := ih leads (by
              rw [added]
              exact List.forall_mem_append.mpr ⟨runs, List.forall_mem_singleton.mpr halting⟩)
            rw [Progress.frames_add attributes joins] at read_on
            rw [← read_on]
            rw [operator.length_symbol]
            exact serveFrom_of_runs _ _ _ _ _ _ operator longest inside boundary nonempty
              classified halting
  | @blank name position c rest row space later ih =>
      rw [serveFrom_blank _ _ _ _ _ _ c space]
      exact ih leads runs
  | @first position c rest row inside later ih =>
      rw [serveFrom_letter _ _ _ _ _ _ c inside]
      exact ih leads runs
  | @further start first read position c rest row inside later ih =>
      rw [serveFrom_letter _ _ _ _ _ _ c inside, ← NamePart.text_further]
      exact ih leads runs

/-- With attributes, serving a condition that parses is one scan of its short spelling. -/
theorem shouldServe_eq_serveInOnePass {condition : String} {tree : Expression}
    (present : attributes.isEmpty = false) (parsed : (parse options condition).result = .ok tree) :
    (shouldServe options attributes condition).result =
      serveInOnePass options attributes condition := by
  have spelled := Token.spells_scan (normalize condition).toList
  have leads : Progress.Leads options .start
      (Token.scan (normalize condition).toList) tree := by
    rw [Progress.Leads, ← parse_result options spelled, parsed]
  have runs : ∀ comparison ∈ Progress.start.comparisons, ¬ comparison.Halting attributes := by
    intro comparison member
    cases member
  rw [shouldServe_of_parse present parsed, serveInOnePass]
  exact (serveFrom_of_leads spelled leads runs).symm

/-- An empty scope, a name that is not used, and an error after both. -/
theorem serveInOnePass_mismatch :
    let attributes := NameMap.ofList [("age", .number (.ofInt 25)), ("city", .text "Rome")]
    let condition := "() and (age<35 or x) and city<5"
    attributes.isEmpty = false ∧ (∃ tree, (parse {} condition).result = .ok tree) ∧
      (shouldServe {} attributes condition).result = serveInOnePass {} attributes condition ∧
      serveInOnePass {} attributes condition =
        .error (.typeMismatch "city" .text .number 27) := by
  intro attributes condition
  have parses : (parse {} condition).result.isOk = true := by decide +kernel
  have error : serveInOnePass {} attributes condition =
      .error (.typeMismatch "city" .text .number 27) := by
    decide +kernel
  cases parsed : (parse {} condition).result with
  | error reason =>
      rw [parsed] at parses
      cases parses
  | ok tree => exact ⟨rfl, ⟨tree, rfl⟩, shouldServe_eq_serveInOnePass rfl parsed, error⟩

end AdTargeting
