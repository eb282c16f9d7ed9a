import AdTargeting.Proofs.Condition.FirstFault

set_option autoImplicit false

/-
Two readings of one row of tokens, under options of their own. When both succeed, they give trees of
one shape, and each comparison of one tree is related to its counterpart as the options treat it.
-/

namespace AdTargeting

namespace Expression

mutual

/-- Trees of one shape with the same relations, whose comparisons are related one by one. -/
inductive Parallel (alike : Comparison → Comparison → Prop) : Expression → Expression → Prop
  | compare {left right : Comparison} (same : alike left right) :
      Parallel alike (.compare left) (.compare right)
  | scope {left right : List Term} (terms : TermsParallel alike left right) :
      Parallel alike (.scope left) (.scope right)

inductive TermsParallel (alike : Comparison → Comparison → Prop) : List Term → List Term → Prop
  | nil : TermsParallel alike [] []
  | cons {left right : Expression} {rest rest' : List Term} (relation : Option Relation)
      (first : Parallel alike left right) (later : TermsParallel alike rest rest') :
      TermsParallel alike (⟨relation, left⟩ :: rest) (⟨relation, right⟩ :: rest')

end

variable {alike : Comparison → Comparison → Prop}

mutual

theorem Parallel.depth {left right : Expression} (parallel : Parallel alike left right) :
    left.depth = right.depth := by
  match parallel with
  | .compare same => rfl
  | .scope terms => rw [Expression.depth, Expression.depth, TermsParallel.termDepth terms]

theorem TermsParallel.termDepth {left right : List Term}
    (parallel : TermsParallel alike left right) :
    Expression.termDepth left = Expression.termDepth right := by
  match parallel with
  | .nil => rfl
  | .cons relation first later =>
      rw [Expression.termDepth, Expression.termDepth, Parallel.depth first,
        TermsParallel.termDepth later]

end

mutual

theorem Parallel.length_comparisons {left right : Expression}
    (parallel : Parallel alike left right) :
    left.comparisons.length = right.comparisons.length := by
  match parallel with
  | .compare same => rfl
  | .scope terms => exact TermsParallel.length_termComparisons terms

theorem TermsParallel.length_termComparisons {left right : List Term}
    (parallel : TermsParallel alike left right) :
    (Expression.termComparisons left).length = (Expression.termComparisons right).length := by
  match parallel with
  | .nil => rfl
  | .cons relation first later =>
      rw [Expression.termComparisons, Expression.termComparisons, List.length_append,
        List.length_append, Parallel.length_comparisons first,
        TermsParallel.length_termComparisons later]

end

theorem TermsParallel.concat {left right : List Term} {first second : Expression}
    (parallel : TermsParallel alike left right) (relation : Option Relation)
    (last : Parallel alike first second) :
    TermsParallel alike (left ++ [⟨relation, first⟩]) (right ++ [⟨relation, second⟩]) := by
  match parallel with
  | .nil => exact .cons relation last .nil
  | .cons earlier first later =>
      exact .cons earlier first (TermsParallel.concat later relation last)

end Expression

variable {alike : Comparison → Comparison → Prop}

theorem Joins.unique_of_parallel {terms terms' : List Term} {read joined joined' : Option Relation}
    (parallel : Expression.TermsParallel alike terms terms') (joins : Joins terms read joined)
    (joins' : Joins terms' read joined') : joined = joined' := by
  cases parallel with
  | nil =>
      cases joins with
      | first read =>
          cases joins' with
          | first read => rfl
          | later relation nonempty => exact absurd rfl nonempty
      | later relation nonempty => exact absurd rfl nonempty
  | cons earlier first later =>
      cases joins with
      | later relation nonempty =>
          cases joins' with
          | later relation nonempty' => rfl

structure Interrupted.Parallel (alike : Comparison → Comparison → Prop)
    (left right : Interrupted) : Prop where
  terms : Expression.TermsParallel alike left.terms right.terms
  relation : left.relation = right.relation

/-- Two readings that have got equally far and found related comparisons. -/
structure Progress.Parallel (alike : Comparison → Comparison → Prop)
    (left right : Progress) : Prop where
  terms : Expression.TermsParallel alike left.terms right.terms
  relation : left.relation = right.relation
  enclosing : List.Forall₂ (Interrupted.Parallel alike) left.enclosing right.enclosing

/-- The literal of a token, if it has one, is read as literals of related comparisons. -/
def Token.ReadsAlike (options options' : Options) (alike : Comparison → Comparison → Prop) :
    Token → Prop
  | .comparison name _ operator position text =>
      ∀ literal literal', Literal.classify options text = some literal →
        Literal.classify options' text = some literal' →
          alike ⟨name, operator, literal, position⟩ ⟨name, operator, literal', position⟩
  | _ => True

namespace Progress

variable {options options' : Options} {left right : Progress}

theorem Parallel.start : Parallel alike start start :=
  ⟨.nil, rfl, .nil⟩

/-- A token that two readings accept leaves them side by side. -/
theorem Parallel.advance {token : Token} {next next' : Progress}
    (parallel : Parallel alike left right) (reads : token.ReadsAlike options options' alike)
    (advances : Advances options left token next)
    (advances' : Advances options' right token next') : Parallel alike next next' := by
  obtain ⟨terms, related, enclosing⟩ := parallel
  cases advances with
  | opening first read around position =>
      cases advances' with
      | opening first' read' around' position =>
          exact ⟨.nil, rfl, .cons ⟨terms, related⟩ enclosing⟩
  | @closing outer inner read pending joined joins around first last =>
      cases advances' with
      | @closing outer' inner' read' pending' joined' joins' around' first' last =>
          cases enclosing with
          | cons outermost others =>
              obtain ⟨outer_terms, same⟩ := outermost
              simp only at same outer_terms
              subst same
              obtain rfl := joins.unique_of_parallel outer_terms joins'
              exact ⟨outer_terms.concat joined (.scope terms), rfl, others⟩
  | relation first read around value doubled =>
      cases advances' with
      | relation first' read' around' value doubled => exact ⟨terms, rfl, enclosing⟩
  | @comparison first read joined joins around name start operator position text literal nonempty
      classified =>
      cases advances' with
      | @comparison first' read' joined' joins' around' _ _ _ _ _ literal' nonempty' classified' =>
          simp only at related terms
          subst related
          obtain rfl := joins.unique_of_parallel terms joins'
          have same := reads literal literal' classified classified'
          exact ⟨terms.concat joined (.compare same), rfl, enclosing⟩
  | stray progress name start =>
      cases advances' with
      | stray progress' name start => exact ⟨terms, related, enclosing⟩

/-- Two readings that both come to the end of a row give related trees. -/
theorem Parallel.leads {row : List Token} {tree tree' : Expression}
    (parallel : Parallel alike left right)
    (reads : ∀ token ∈ row, token.ReadsAlike options options' alike)
    (leads : Leads options left row tree) (leads' : Leads options' right row tree') :
    tree.Parallel alike tree' := by
  induction row generalizing left right with
  | nil =>
      obtain ⟨-, rfl⟩ := leads.finished
      obtain ⟨-, rfl⟩ := leads'.finished
      exact .scope parallel.terms
  | cons token rest ih =>
      obtain ⟨here, later⟩ := List.forall_mem_cons.mp reads
      obtain ⟨next, advances, onward⟩ := leads.advances
      obtain ⟨next', advances', onward'⟩ := leads'.advances
      exact ih (parallel.advance here advances advances') later onward onward'

end Progress

/-- A condition that parses under two options gives two trees of one shape. -/
theorem parallel_of_parse {options options' : Options} {condition : String} {row : List Token}
    {tree tree' : Expression} (spelled : Token.Spells .none 0 (normalize condition).toList row)
    (reads : ∀ token ∈ row, token.ReadsAlike options options' alike)
    (parsed : (parse options condition).result = .ok tree)
    (parsed' : (parse options' condition).result = .ok tree') : tree.Parallel alike tree' := by
  rw [parse_result options spelled] at parsed
  rw [parse_result options' spelled] at parsed'
  exact Progress.Parallel.start.leads reads parsed parsed'

end AdTargeting
