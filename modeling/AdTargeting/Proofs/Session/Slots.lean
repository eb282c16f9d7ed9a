import AdTargeting.Session
import AdTargeting.Proofs.Serving.Paths
import Mathlib.Data.List.Induction

set_option autoImplicit false

/-
What a slot holds after any actions: the condition of the last action that filled it, read under the
options of that moment. The options of a moment are found from the actions alone.
-/

namespace AdTargeting

/-- The options in force after an action. -/
def Action.optionsNext (options : Options) : Action → Options
  | setOptions replaced => replaced
  | _ => options

def optionsAfter (initial : Options) (actions : List Action) : Options :=
  actions.foldl Action.optionsNext initial

def Compiles (options : Options) (condition : String) : Prop :=
  ∃ compiled, (compile options condition).result = .ok compiled

/-- The action puts a compiled condition into the slot if the options are in force. -/
def Action.Fills (action : Action) (options : Options) (slot : String) : Prop :=
  ∃ condition, action = compile slot condition ∧ Compiles options condition

/-- The last action to fill the slot compiled the condition, when the options were in force. -/
def LastFilled (initial : Options) (actions : List Action) (slot : String) (options : Options)
    (condition : String) : Prop :=
  ∃ before after, actions = before ++ .compile slot condition :: after ∧
    optionsAfter initial before = options ∧ Compiles options condition ∧
    ∀ early action late, after = early ++ action :: late →
      ¬ action.Fills (optionsAfter initial (before ++ .compile slot condition :: early)) slot

namespace Session

section Step

variable {session : Session}

theorem next_of_error {action : Action} {reason : ServeError}
    (failed : session.act action = .error reason) : session.next action = session := by
  rw [next, failed]

theorem act_compile_error {condition : String} {reason : ConditionError}
    (refused : (AdTargeting.compile session.options condition).result = .error reason)
    (slot : String) : session.act (.compile slot condition) = .error (.condition reason) := by
  rw [act, refused]

theorem next_compile {condition : String} {compiled : Compiled}
    (accepted : (AdTargeting.compile session.options condition).result = .ok compiled)
    (slot : String) :
    session.next (.compile slot condition) =
      { session with slots := session.slots.insert slot compiled } := by
  rw [next, act, accepted]

theorem act_replaceJson_error {value : Json} {reason : Attributes.Invalid}
    (refused : Attributes.ofJson value = .error reason) :
    session.act (.replaceJson value) = .error (.invalidAttribute reason) := by
  rw [act, refused]

/-- Trying a condition changes nothing, whether or not it gives a verdict. -/
theorem next_serve (session : Session) (slot : String) : session.next (.serve slot) = session := by
  simp only [next, act]
  rcases session.verdict? slot with - | (- | -) <;> rfl

variable (session)

theorem next_cases (action : Action) :
    (∃ attributes, (∀ slot condition, action ≠ .compile slot condition) ∧
      action.optionsNext session.options = session.options ∧
      session.next action = { session with attributes }) ∨
    (∃ options, action = .setOptions options ∧ session.next action = { session with options }) ∨
    (∃ slot condition compiled, action = .compile slot condition ∧
      (AdTargeting.compile session.options condition).result = .ok compiled ∧
      session.next action = { session with slots := session.slots.insert slot compiled }) ∨
    (∃ slot condition reason, action = .compile slot condition ∧
      (AdTargeting.compile session.options condition).result = .error reason ∧
      session.next action = session) := by
  cases action with
  | insert name value => exact Or.inl ⟨_, nofun, rfl, rfl⟩
  | replaceJson value =>
      refine Or.inl ?_
      cases read : Attributes.ofJson value with
      | ok attributes => exact ⟨attributes, nofun, rfl, by rw [next, act, read]⟩
      | error reason =>
          exact ⟨session.attributes, nofun, rfl, next_of_error (act_replaceJson_error read)⟩
  | replacePairs pairs => exact Or.inl ⟨_, nofun, rfl, rfl⟩
  | setOptions options => exact Or.inr (Or.inl ⟨options, rfl, rfl⟩)
  | compile slot condition =>
      refine Or.inr (Or.inr ?_)
      cases read : (AdTargeting.compile session.options condition).result with
      | ok compiled =>
          exact Or.inl ⟨slot, condition, compiled, rfl, read, next_compile read slot⟩
      | error reason =>
          exact Or.inr ⟨slot, condition, reason, rfl, read,
            next_of_error (act_compile_error read slot)⟩
  | serve slot => exact Or.inl ⟨session.attributes, nofun, rfl, next_serve session slot⟩

theorem options_next (action : Action) :
    (session.next action).options = action.optionsNext session.options := by
  rcases next_cases session action with
    ⟨_, -, same, after⟩ | ⟨_, rfl, after⟩ | ⟨_, _, _, rfl, -, after⟩ | ⟨_, _, _, rfl, -, after⟩
  · rw [after, same]
  · rw [after]; rfl
  · rw [after]; rfl
  · rw [after]; rfl

/-- An action fills a slot with the condition it compiles, or leaves the slot as it was. -/
theorem slot_next (action : Action) (slot : String) :
    (∃ condition compiled, action = .compile slot condition ∧
      (AdTargeting.compile session.options condition).result = .ok compiled ∧
      (session.next action).slots.get? slot = some compiled) ∨
    (¬ action.Fills session.options slot ∧
      (session.next action).slots.get? slot = session.slots.get? slot) := by
  rcases next_cases session action with
    ⟨_, other, -, after⟩ | ⟨_, rfl, after⟩ | ⟨written, condition, compiled, rfl, accepted, after⟩ |
    ⟨_, condition, reason, rfl, refused, after⟩
  · refine Or.inr ⟨?_, by rw [after]⟩
    rintro ⟨condition, same, -⟩
    exact other _ _ same
  · refine Or.inr ⟨?_, by rw [after]⟩
    rintro ⟨condition, ⟨⟩, -⟩
  · by_cases here : slot = written
    · subst here
      refine Or.inl ⟨condition, compiled, rfl, accepted, ?_⟩
      rw [after, NameMap.get?_insert, if_pos rfl]
    · refine Or.inr ⟨?_, ?_⟩
      · rintro ⟨_, ⟨⟩, -⟩
        exact here rfl
      · rw [after, NameMap.get?_insert, if_neg here]
  · refine Or.inr ⟨?_, by rw [after]⟩
    rintro ⟨_, ⟨⟩, compiled, accepted⟩
    rw [refused] at accepted
    cases accepted

end Step

theorem run_append (session : Session) (actions later : List Action) :
    session.run (actions ++ later) = (session.run actions).run later :=
  List.foldl_append

theorem run_concat (session : Session) (actions : List Action) (action : Action) :
    session.run (actions ++ [action]) = (session.run actions).next action :=
  run_append session actions [action]

end Session

theorem optionsAfter_concat (initial : Options) (actions : List Action) (action : Action) :
    optionsAfter initial (actions ++ [action]) =
      action.optionsNext (optionsAfter initial actions) :=
  List.foldl_append

theorem Session.options_run (session : Session) (actions : List Action) :
    (session.run actions).options = optionsAfter session.options actions := by
  induction actions using List.reverseRecOn with
  | nil => rfl
  | append_singleton actions action ih =>
      rw [run_concat, options_next, ih, optionsAfter_concat]

variable {initial options : Options} {actions : List Action} {slot condition : String}

theorem LastFilled.compiles (last : LastFilled initial actions slot options condition) :
    Compiles options condition := by
  obtain ⟨before, after, -, -, accepted, -⟩ := last
  exact accepted

theorem not_lastFilled_nil : ¬ LastFilled initial [] slot options condition := by
  rintro ⟨before, after, split, -⟩
  exact List.append_ne_nil_of_right_ne_nil _ (List.cons_ne_nil _ _) split.symm

/-- An action either fills the slot itself, or the last to fill it is an earlier one. -/
theorem lastFilled_concat {action : Action} :
    LastFilled initial (actions ++ [action]) slot options condition ↔
      (action = .compile slot condition ∧ optionsAfter initial actions = options ∧
        Compiles options condition) ∨
      (¬ action.Fills (optionsAfter initial actions) slot ∧
        LastFilled initial actions slot options condition) := by
  constructor
  · rintro ⟨before, after, split, force, accepted, quiet⟩
    rcases places_concat split with ⟨rfl, rfl, rfl⟩ | ⟨between, rfl, rfl⟩
    · exact Or.inl ⟨rfl, force, accepted⟩
    · refine Or.inr ⟨quiet between action [] rfl, before, between, rfl, force, accepted, ?_⟩
      rintro early other late rfl
      exact quiet early other (late ++ [action]) (by rw [List.append_assoc, List.cons_append])
  · rintro (⟨rfl, force, accepted⟩ | ⟨idle, before, after, rfl, force, accepted, quiet⟩)
    · refine ⟨actions, [], rfl, force, accepted, ?_⟩
      intro early other late split
      exact absurd split.symm (List.append_ne_nil_of_right_ne_nil _ (List.cons_ne_nil _ _))
    · refine ⟨before, after ++ [action], ?_, force, accepted, ?_⟩
      · rw [List.append_assoc, List.cons_append]
      · intro early other late split
        rcases places_concat split with ⟨rfl, rfl, rfl⟩ | ⟨between, within, rfl⟩
        · exact idle
        · exact quiet early other between within

namespace Session

/-- A slot holds what its last filling compiled. -/
theorem slot_run (slot : String) {compiled : Compiled} :
    ((start initial).run actions).slots.get? slot = some compiled ↔
      ∃ options condition, LastFilled initial actions slot options condition ∧
        (AdTargeting.compile options condition).result = .ok compiled := by
  induction actions using List.reverseRecOn with
  | nil =>
      constructor
      · nofun
      · rintro ⟨options, condition, filled, -⟩
        exact absurd filled not_lastFilled_nil
  | append_singleton actions action ih =>
      have force : ((start initial).run actions).options = optionsAfter initial actions :=
        options_run _ actions
      simp only [run_concat, lastFilled_concat]
      rcases slot_next ((start initial).run actions) action slot with
        ⟨condition, found, rfl, accepted, filled⟩ | ⟨idle, same⟩
      · rw [force] at accepted
        rw [filled]
        constructor
        · rintro ⟨⟩
          exact ⟨_, condition, Or.inl ⟨rfl, rfl, compiled, accepted⟩, accepted⟩
        · rintro ⟨options, other, ⟨⟨⟩, rfl, -⟩ | ⟨idle, -⟩, accepted'⟩
          · rw [accepted] at accepted'
            rw [Except.ok.inj accepted']
          · exact absurd ⟨condition, rfl, found, accepted⟩ idle
      · rw [force] at idle
        rw [same, ih]
        constructor
        · rintro ⟨options, condition, filled, accepted⟩
          exact ⟨options, condition, Or.inr ⟨idle, filled⟩, accepted⟩
        · rintro ⟨options, condition, ⟨rfl, rfl, compiles⟩ | ⟨-, filled⟩, accepted⟩
          · exact absurd ⟨condition, rfl, compiles⟩ idle
          · exact ⟨options, condition, filled, accepted⟩

theorem slot_run_of_elsewhere (session : Session) {later : List Action}
    (elsewhere : ∀ action ∈ later, ∀ condition, action ≠ .compile slot condition) :
    (session.run later).slots.get? slot = session.slots.get? slot := by
  induction later using List.reverseRecOn with
  | nil => rfl
  | append_singleton later action ih =>
      obtain ⟨others, last⟩ := List.forall_mem_append.mp elsewhere
      rw [run_concat]
      rcases slot_next (session.run later) action slot with ⟨condition, _, here, -⟩ | ⟨-, same⟩
      · exact absurd here (last action (List.mem_singleton_self action) condition)
      · rw [same, ih others]

theorem verdict_eq {session : Session} {compiled : Compiled}
    (filled : session.slots.get? slot = some compiled) :
    session.verdict? slot = some (compiled.serves session.attributes).result := by
  rw [verdict?, filled]
  rfl

/-- In every session that can be reached, a filled slot has the text of the last condition compiled
into it, and decides for all attributes as that text does under the options of that moment. Other
actions do not alter the slot, and a failing action alters nothing. -/
theorem slots_of_run (initial : Options) (actions : List Action) :
    let session := (start initial).run actions
    (∀ slot compiled, session.slots.get? slot = some compiled →
      ∃ options, LastFilled initial actions slot options compiled.source) ∧
    (∀ slot options condition, LastFilled initial actions slot options condition →
      ∃ compiled, session.slots.get? slot = some compiled ∧ compiled.source = condition ∧
        (∀ attributes, (compiled.serves attributes).result =
          (shouldServe options attributes condition).result) ∧
        session.verdict? slot =
          some (shouldServe options session.attributes condition).result) ∧
    (∀ slot later, (∀ action ∈ later, ∀ condition, action ≠ .compile slot condition) →
      (session.run later).slots.get? slot = session.slots.get? slot) ∧
    (∀ slot condition reason,
      (AdTargeting.compile session.options condition).result = .error reason →
        session.act (.compile slot condition) = .error (.condition reason) ∧
          session.next (.compile slot condition) = session) ∧
    (∀ value reason, Attributes.ofJson value = .error reason →
      session.act (.replaceJson value) = .error (.invalidAttribute reason) ∧
        session.next (.replaceJson value) = session) ∧
    ∀ slot, session.next (.serve slot) = session := by
  intro session
  refine ⟨?_, ?_, ?_, ?_, ?_, next_serve session⟩
  · intro slot compiled filled
    obtain ⟨options, condition, last, accepted⟩ := (slot_run slot).mp filled
    obtain ⟨-, -, rfl⟩ := exists_parse_of_compile accepted
    exact ⟨options, last⟩
  · intro slot options condition last
    obtain ⟨compiled, accepted⟩ := last.compiles
    have filled : session.slots.get? slot = some compiled :=
      (slot_run slot).mpr ⟨options, condition, last, accepted⟩
    refine ⟨compiled, filled, ?_, serves_of_compile accepted, ?_⟩
    · obtain ⟨-, -, rfl⟩ := exists_parse_of_compile accepted
      rfl
    · rw [verdict_eq filled, serves_of_compile accepted]
  · intro slot later elsewhere
    exact slot_run_of_elsewhere session elsewhere
  · intro slot condition reason refused
    have failed := act_compile_error refused slot
    exact ⟨failed, next_of_error failed⟩
  · intro value reason refused
    have failed : session.act (.replaceJson value) = _ := act_replaceJson_error refused
    exact ⟨failed, next_of_error failed⟩

/-- A slot that keeps its interval after the options that allowed it, and a malformed condition for
the same slot. -/
theorem slots_of_run_interval :
    let condition := "age=[18-30]"
    let actions : List Action := [.insert "age" (.ofInt 20), .compile "slot" condition,
      .setOptions { numericIntervals := false }, .compile "slot" "(age<35"]
    let later : List Action := [.insert "age" (.ofInt 40), .compile "other" "age<35"]
    let session := (start {}).run actions
    LastFilled {} actions "slot" {} condition ∧
      (∃ compiled, session.slots.get? "slot" = some compiled ∧ compiled.source = condition ∧
        ∃ options, LastFilled {} actions "slot" options compiled.source) ∧
      session.verdict? "slot" = some (.ok true) ∧
      (shouldServe session.options session.attributes condition).result =
        .error (.typeMismatch "age" .number .text 3) ∧
      (session.run later).slots.get? "slot" = session.slots.get? "slot" ∧
      session.next (.compile "slot" "(age<35") = session ∧
      session.next (.replaceJson .null) = session := by
  intro condition actions later session
  obtain ⟨sources, kept, elsewhere, refused, unread, -⟩ := slots_of_run {} actions
  have unclosed : (AdTargeting.compile { numericIntervals := false } "(age<35").result =
      .error (.mismatchedParenthesis 0) :=
    eq_error_of_map (by decide +kernel)
  obtain ⟨accepted, compiles, -⟩ : ∃ compiled,
      (AdTargeting.compile {} condition).result = .ok compiled ∧ compiled.source = condition :=
    exists_ok_of_map (by decide +kernel)
  have last : LastFilled {} actions "slot" {} condition := by
    have filled := (@lastFilled_concat {} {} (actions.take 1) "slot" condition _).mpr
      (Or.inl ⟨rfl, rfl, accepted, compiles⟩)
    have replaced := (@lastFilled_concat {} {} (actions.take 2) "slot" condition
      (.setOptions { numericIntervals := false })).mpr (Or.inr ⟨nofun, filled⟩)
    refine (@lastFilled_concat {} {} (actions.take 3) "slot" condition _).mpr
      (Or.inr ⟨?_, replaced⟩)
    rintro ⟨_, ⟨⟩, compiled, closed⟩
    cases unclosed.symm.trans closed
  have force : session.options = { numericIntervals := false } := options_run (start {}) actions
  rw [← force] at unclosed
  obtain ⟨compiled, filled, source, -, verdict⟩ := kept "slot" {} condition last
  refine ⟨last, ⟨compiled, filled, source, sources "slot" compiled filled⟩, ?_, by decide +kernel,
    elsewhere "slot" later ?_, (refused "slot" _ _ unclosed).2, (unread .null _ rfl).2⟩
  · rw [verdict]
    decide +kernel
  · intro action member other same
    rw [same] at member
    simp [later] at member

end Session

end AdTargeting
