import AdTargeting.Condition.Parse
import AdTargeting.Proofs.Condition.Nesting
import Mathlib.Data.List.Induction

set_option autoImplicit false

/-
The grammar of scopes over rows of tokens, and the tree that each derivation describes. Reading a
row that the grammar derives gives that tree.
-/

namespace AdTargeting

namespace Token

/-- The last token of a term: a comparison is one by itself, a group ends where it is closed. -/
def endsTerm : Token → Bool
  | closing _ => true
  | comparison _ _ _ _ _ => true
  | _ => false

def isRelation : Token → Bool
  | relation _ _ => true
  | _ => false

def isStray : Token → Bool
  | stray _ _ => true
  | _ => false

/-- The scope that is open after a row has a term, and no relation has followed its last term. -/
def Awaits (row : List Token) : Prop :=
  ∃ before last strays, row = before ++ last :: strays ∧ last.endsTerm = true ∧
    ∀ token ∈ strays, token.isStray = true

theorem not_awaits_nil : ¬ Awaits [] := by
  rintro ⟨before, last, strays, split, -⟩
  exact List.append_ne_nil_of_right_ne_nil _ (List.cons_ne_nil _ _) split.symm

theorem awaits_concat (row : List Token) (token : Token) :
    Awaits (row ++ [token]) ↔ token.endsTerm = true ∨ token.isStray = true ∧ Awaits row := by
  constructor
  · rintro ⟨before, last, strays, split, ends, all⟩
    rcases places_concat split with ⟨rfl, rfl, rfl⟩ | ⟨others, rest, rfl⟩
    · exact Or.inl ends
    · exact Or.inr ⟨all token List.mem_concat_self, before, last, others, rest, ends,
        fun other member => all other (List.mem_append_left _ member)⟩
  · rintro (ends | ⟨stray, before, last, strays, rfl, ends, all⟩)
    · exact ⟨row, token, [], rfl, ends, nofun⟩
    · refine ⟨before, last, strays ++ [token], by simp, ends, ?_⟩
      intro other member
      rcases List.mem_append.mp member with early | late
      · exact all other early
      · rw [List.mem_singleton.mp late]
        exact stray

/-- Only what follows the parenthesis that was opened last counts. -/
theorem awaits_inside (before row : List Token) (position : Nat) :
    Awaits (before ++ opening position :: row) ↔ Awaits row := by
  induction row using List.reverseRecOn with
  | nil =>
      rw [awaits_concat]
      simp only [endsTerm, isStray, Bool.false_eq_true, false_and, or_self, not_awaits_nil]
  | append_singleton row token ih =>
      rw [← List.cons_append, ← List.append_assoc, awaits_concat, awaits_concat, ih]

end Token

/-- How a term joins those before it: the first has no relation, whatever was read before it, and
a later one has the relation that was read last. -/
inductive Joins : List Term → Option Relation → Option Relation → Prop
  | first (read : Option Relation) : Joins [] read none
  | later {terms : List Term} (relation : Relation) (nonempty : terms ≠ []) :
      Joins terms (some relation) (some relation)

/-- What a row of tokens says inside one scope: its terms, and the relation read since the last of
them. Groups are scopes of their own; names that no comparison took say nothing. -/
inductive Content (options : Options) : List Token → List Term → Option Relation → Prop
  | empty : Content options [] [] none
  | stray {row : List Token} {terms : List Term} {read : Option Relation}
      (earlier : Content options row terms read) (name : String) (start : Nat) :
      Content options (row ++ [.stray name start]) terms read
  | relation {row : List Token} {terms : List Term} {read : Option Relation}
      (earlier : Content options row terms read) (value : Relation) (doubled : Bool) :
      Content options (row ++ [.relation value doubled]) terms (some value)
  | comparison {row : List Token} {terms : List Term} {read joined : Option Relation}
      (earlier : Content options row terms read) (joins : Joins terms read joined)
      (name : String) (start : Nat) (operator : Operator) (position : Nat) {text : List Char}
      {literal : Literal} (nonempty : text ≠ [])
      (classified : Literal.classify options text = some literal) :
      Content options (row ++ [.comparison name start operator position text])
        (terms ++ [⟨joined, .compare ⟨name, operator, literal, position⟩⟩]) none
  | group {row inside : List Token} {terms inner : List Term}
      {read pending joined : Option Relation}
      (earlier : Content options row terms read) (within : Content options inside inner pending)
      (joins : Joins terms read joined) (first last : Nat) :
      Content options (row ++ (.opening first :: inside ++ [.closing last]))
        (terms ++ [⟨joined, .scope inner⟩]) none

variable {options : Options} {row : List Token} {terms : List Term} {read : Option Relation}

theorem Content.matched (content : Content options row terms read) : Token.Matched row := by
  induction content with
  | empty => exact .nil
  | stray earlier name start ih => exact ih.append (.single rfl rfl)
  | relation earlier value doubled ih => exact ih.append (.single rfl rfl)
  | comparison earlier joins name start operator position nonempty classified ih =>
      exact ih.append (.single rfl rfl)
  | group earlier within joins first last ih inner => exact ih.append (inner.group first last)

/-- A relation is missing exactly when there are terms and nothing was read after them. -/
theorem Content.awaits_iff (content : Content options row terms read) :
    Token.Awaits row ↔ terms ≠ [] ∧ read = none := by
  induction content with
  | empty => simp [Token.not_awaits_nil]
  | stray earlier name start ih =>
      rw [Token.awaits_concat, ← ih]
      simp only [Token.endsTerm, Token.isStray, Bool.false_eq_true, true_and, false_or]
  | relation earlier value doubled ih =>
      rw [Token.awaits_concat]
      simp [Token.endsTerm, Token.isStray]
  | comparison earlier joins name start operator position nonempty classified ih =>
      rw [Token.awaits_concat]
      simp [Token.endsTerm]
  | group earlier within joins first last ih inner =>
      rw [← List.append_assoc, Token.awaits_concat]
      simp [Token.endsTerm]

namespace Progress

def steps (options : Options) (progress : Progress) (row : List Token) :
    Except ConditionError Progress :=
  row.foldlM (step options) progress

theorem steps_cons {progress next : Progress} {token : Token} (rest : List Token)
    (stepped : step options progress token = .ok next) :
    steps options progress (token :: rest) = steps options next rest := by
  simp only [steps, List.foldlM_cons, stepped]
  rfl

theorem steps_append {progress next : Progress} {first : List Token} (second : List Token)
    (reached : steps options progress first = .ok next) :
    steps options progress (first ++ second) = steps options next second := by
  rw [steps, List.foldlM_append]
  rw [steps] at reached
  rw [reached]
  rfl

theorem steps_single (progress : Progress) (token : Token) :
    steps options progress [token] = step options progress token := by
  simp only [steps, List.foldlM_cons, List.foldlM_nil, bind_pure]

/-- Records apart, a run is its steps and the check that no scope is left open. -/
theorem run_result (progress : Progress) (row : List Token) :
    (run options progress row).result = (steps options progress row).bind finish := by
  induction row generalizing progress with
  | nil => rfl
  | cons token rest ih =>
      simp only [run, steps, List.foldlM_cons]
      cases stepped : step options progress token with
      | error reason => rfl
      | ok next => cases token <;> exact ih next

theorem add_joined {joined : Option Relation} (joins : Joins terms read joined)
    (enclosing : List Interrupted) (expression : Expression) (position : Nat) :
    add ⟨terms, read, enclosing⟩ expression position =
      .ok ⟨terms ++ [⟨joined, expression⟩], none, enclosing⟩ := by
  cases joins with
  | first read => rfl
  | later relation nonempty =>
      obtain ⟨head, tail, rfl⟩ := List.exists_cons_of_ne_nil nonempty
      rfl

/-- Adding a term fails when a relation is missing, and otherwise joins the term to those before
it. -/
theorem add_cases (terms : List Term) (read : Option Relation) (enclosing : List Interrupted)
    (expression : Expression) (position : Nat) :
    (terms ≠ [] ∧ read = none ∧
      add ⟨terms, read, enclosing⟩ expression position =
        .error (.missingRelation position)) ∨
    ∃ joined, Joins terms read joined ∧
      add ⟨terms, read, enclosing⟩ expression position =
        .ok ⟨terms ++ [⟨joined, expression⟩], none, enclosing⟩ := by
  cases terms with
  | nil => exact Or.inr ⟨none, .first read, rfl⟩
  | cons head tail =>
      cases read with
      | none => exact Or.inl ⟨List.cons_ne_nil head tail, rfl, rfl⟩
      | some relation =>
          exact Or.inr ⟨some relation, .later relation (List.cons_ne_nil head tail), rfl⟩

/-- All that reading one token can do to a progress. -/
inductive Advances (options : Options) : Progress → Token → Progress → Prop
  | opening (terms : List Term) (read : Option Relation) (enclosing : List Interrupted)
      (position : Nat) :
      Advances options ⟨terms, read, enclosing⟩ (.opening position)
        ⟨[], none, ⟨terms, read, position⟩ :: enclosing⟩
  | closing {terms inner : List Term} {read pending joined : Option Relation}
      (joins : Joins terms read joined) (enclosing : List Interrupted) (first last : Nat) :
      Advances options ⟨inner, pending, ⟨terms, read, first⟩ :: enclosing⟩ (.closing last)
        ⟨terms ++ [⟨joined, .scope inner⟩], none, enclosing⟩
  | relation (terms : List Term) (read : Option Relation) (enclosing : List Interrupted)
      (value : Relation) (doubled : Bool) :
      Advances options ⟨terms, read, enclosing⟩ (.relation value doubled)
        ⟨terms, some value, enclosing⟩
  | comparison {terms : List Term} {read joined : Option Relation}
      (joins : Joins terms read joined) (enclosing : List Interrupted) (name : String)
      (start : Nat) (operator : Operator) (position : Nat) {text : List Char} {literal : Literal}
      (nonempty : text ≠ []) (classified : Literal.classify options text = some literal) :
      Advances options ⟨terms, read, enclosing⟩ (.comparison name start operator position text)
        ⟨terms ++ [⟨joined, .compare ⟨name, operator, literal, position⟩⟩], none, enclosing⟩
  | stray (progress : Progress) (name : String) (start : Nat) :
      Advances options progress (.stray name start) progress

theorem joined_of_add {terms : List Term} {read : Option Relation} {enclosing : List Interrupted}
    {expression : Expression} {position : Nat} {next : Progress}
    (added : add ⟨terms, read, enclosing⟩ expression position = .ok next) :
    ∃ joined, Joins terms read joined ∧
      next = ⟨terms ++ [⟨joined, expression⟩], none, enclosing⟩ := by
  rcases add_cases terms read enclosing expression position with
    ⟨-, -, refused⟩ | ⟨joined, joins, accepted⟩
  · rw [refused] at added
    cases added
  · rw [accepted] at added
    exact ⟨joined, joins, (Except.ok.inj added).symm⟩

theorem advances_of_step {progress next : Progress} {token : Token}
    (stepped : step options progress token = .ok next) : Advances options progress token next := by
  obtain ⟨terms, read, enclosing⟩ := progress
  cases token with
  | opening position =>
      simp only [step, openScope] at stepped
      split at stepped
      · cases stepped
      · cases stepped
        exact .opening terms read enclosing position
  | closing position =>
      cases enclosing with
      | nil => cases stepped
      | cons outer enclosing =>
          obtain ⟨joined, joins, rfl⟩ := joined_of_add stepped
          exact .closing joins enclosing outer.opened position
  | relation value doubled =>
      cases stepped
      exact .relation terms read enclosing value doubled
  | comparison name start operator position text =>
      simp only [step, addComparison, Literal.read] at stepped
      split at stepped
      · cases stepped
      · rename_i nonempty
        cases classified : Literal.classify options text with
        | none =>
            rw [classified] at stepped
            cases stepped
        | some literal =>
            rw [classified] at stepped
            obtain ⟨joined, joins, rfl⟩ := joined_of_add stepped
            exact .comparison joins enclosing name start operator position nonempty classified
  | stray name start =>
      cases stepped
      exact .stray _ name start

def Leads (options : Options) (progress : Progress) (rest : List Token) (tree : Expression) :
    Prop :=
  (steps options progress rest).bind finish = .ok tree

namespace Leads

variable {progress : Progress} {tree : Expression}

theorem finished (leads : Leads options progress [] tree) :
    progress.enclosing = [] ∧ tree = .scope progress.terms := by
  obtain ⟨terms, read, enclosing⟩ := progress
  cases enclosing with
  | nil =>
      cases leads
      exact ⟨rfl, rfl⟩
  | cons outer enclosing => cases leads

theorem advances {token : Token} {rest : List Token}
    (leads : Leads options progress (token :: rest) tree) :
    ∃ next, Advances options progress token next ∧ Leads options next rest tree := by
  cases stepped : step options progress token with
  | error reason =>
      simp only [Leads, steps, List.foldlM_cons, stepped] at leads
      cases leads
  | ok next =>
      rw [Leads, steps_cons rest stepped] at leads
      exact ⟨next, advances_of_step stepped, leads⟩

end Leads

end Progress

/-- Reading a row that the grammar derives gives what it describes, when the scopes around it leave
room for its parentheses. -/
theorem Content.steps (content : Content options row terms read) {limit : Nat}
    (shallow : Token.Shallow limit row) (enclosing : List Interrupted)
    (room : limit + enclosing.length ≤ options.maxDepth) :
    Progress.steps options ⟨[], none, enclosing⟩ row = .ok ⟨terms, read, enclosing⟩ := by
  induction content generalizing limit enclosing with
  | empty => rfl
  | stray earlier name start ih =>
      have reached := ih shallow.of_append enclosing room
      rw [Progress.steps_append _ reached, Progress.steps_single]
      rfl
  | relation earlier value doubled ih =>
      have reached := ih shallow.of_append enclosing room
      rw [Progress.steps_append _ reached, Progress.steps_single]
      rfl
  | comparison earlier joins name start operator position nonempty classified ih =>
      have reached := ih shallow.of_append enclosing room
      rw [Progress.steps_append _ reached, Progress.steps_single]
      simp only [Progress.step, Progress.addComparison, nonempty, ↓reduceIte, Literal.read,
        classified]
      exact Progress.add_joined joins enclosing _ start
  | @group row inside terms inner read pending joined earlier within joins first last ih inner_ih =>
      have reached := ih shallow.of_append enclosing room
      obtain ⟨less, rfl, shallow_inside⟩ := shallow.inside_group earlier.matched
      have opened : Progress.step options ⟨terms, read, enclosing⟩ (.opening first) =
          .ok ⟨[], none, ⟨terms, read, first⟩ :: enclosing⟩ := by
        simp only [Progress.step, Progress.openScope]
        rw [if_neg (by omega)]
      have body := inner_ih shallow_inside (⟨terms, read, first⟩ :: enclosing) (by
        rw [List.length_cons]
        omega)
      rw [Progress.steps_append _ reached, List.cons_append, Progress.steps_cons _ opened,
        Progress.steps_append _ body, Progress.steps_single]
      exact Progress.add_joined joins enclosing _ first

end AdTargeting
