import AdTargeting.Proofs.Attributes.Decoding
import AdTargeting.Proofs.Session.Slots

set_option autoImplicit false

/-
Attributes after any history of changes. A name has what was last written to it since all attributes
were last replaced, and nothing else is left of the history.
-/

namespace AdTargeting

namespace Attributes

/-- A change of one entry, or of all attributes for others. -/
inductive Change where
  /-- Writes an entry, in place or as one step of building attributes. -/
  | insert (name : String) (value : AttributeValue)
  /-- Takes the attributes of a JSON value, if it has any. -/
  | ofJson (source : Json)
  | ofMap (map : NameMap AttributeValue)
  /-- Collects pairs, among which a name may stand more than once. -/
  | ofPairs (pairs : List (String × AttributeValue))
  | clear

def change (attributes : Attributes) : Change → Attributes
  | .insert name value => attributes.insert name value
  | .ofJson source =>
      match Attributes.ofJson source with
      | .ok read => read
      | .error _ => attributes
  | .ofMap map => map
  | .ofPairs pairs => NameMap.ofList pairs
  | .clear => NameMap.empty

def after (history : List Change) : Attributes := history.foldl change NameMap.empty

namespace Change

/-- No entry that was there before is left. -/
def Replaces : Change → Prop
  | insert _ _ => False
  | ofJson source => Fits source
  | ofMap _ | ofPairs _ | clear => True

/-- The change itself writes the value to the name, and nothing else to it afterwards. -/
def Writes (name : String) (value : AttributeValue) : Change → Prop
  | insert written held => name = written ∧ value = held
  | ofJson source => Fits source ∧
      ∃ field, source.HasField name field ∧ AttributeValue.ofScalar? field = some value
  | ofMap map => (name, value) ∈ map.entries
  | ofPairs pairs => LastOf pairs name value
  | clear => False

/-- What was written to the name before does not count any longer. -/
def Ends (name : String) (change : Change) : Prop :=
  change.Replaces ∨ ∃ value, change.Writes name value

/-- Nothing is kept under a change that replaces all. -/
theorem writes_or_kept (change : Change) {name : String} {value : AttributeValue} {kept : Prop}
    (replaces : change.Replaces) :
    change.Writes name value ∨ (¬ change.Ends name ∧ kept) ↔ change.Writes name value := by
  apply or_iff_left
  rintro ⟨idle, -⟩
  exact idle (Or.inl replaces)

end Change

/-- A change wrote the value to the name, and none after it ended that. -/
def LastWrite (history : List Change) (name : String) (value : AttributeValue) : Prop :=
  LastPlace (Change.Writes name value) (Change.Ends name) history

variable {history : List Change} {name : String} {value : AttributeValue}

/-- One change: a name has what the change writes to it, or what it had if the change does not
end that. -/
theorem get?_change (attributes : Attributes) (change : Change) :
    (attributes.change change).get? name = some value ↔
      change.Writes name value ∨
        (¬ change.Ends name ∧ attributes.get? name = some value) := by
  cases change with
  | insert written held =>
      show (NameMap.insert attributes written held).get? name = some value ↔ _
      rw [NameMap.get?_insert]
      by_cases here : name = written
      · rw [if_pos here]
        constructor
        · intro found
          exact Or.inl ⟨here, (Option.some.inj found).symm⟩
        · rintro (⟨-, rfl⟩ | ⟨idle, -⟩)
          · rfl
          · exact absurd (Or.inr ⟨held, here, rfl⟩) idle
      · rw [if_neg here]
        simp only [Change.Ends, Change.Writes, Change.Replaces, here, false_and, false_or,
          exists_false, not_false_eq_true, true_and]
  | ofJson source =>
      cases read : Attributes.ofJson source with
      | ok result =>
          have fits := fits_of_ofJson read
          rw [Change.writes_or_kept (.ofJson source) fits]
          simp only [Attributes.change, read, get?_of_ofJson read, Change.Writes, fits, true_and]
      | error reason =>
          have unfit : ¬ Fits source := by
            intro fits
            obtain ⟨result, read'⟩ := exists_ofJson_iff.mpr fits
            rw [read] at read'
            cases read'
          simp only [Attributes.change, read, Change.Ends, Change.Writes, Change.Replaces, unfit,
            false_and, exists_false, or_self, not_false_eq_true, true_and, false_or]
  | ofMap map =>
      rw [Change.writes_or_kept (.ofMap map) trivial]
      exact NameMap.mem_entries_iff.symm
  | ofPairs pairs =>
      rw [Change.writes_or_kept (.ofPairs pairs) trivial]
      exact NameMap.get?_ofList
  | clear =>
      rw [Change.writes_or_kept .clear trivial]
      exact ⟨nofun, False.elim⟩

theorem after_concat (history : List Change) (change : Change) :
    after (history ++ [change]) = (after history).change change := List.foldl_append

/-- A whole history: a name has what was last written to it. -/
theorem get?_after : (after history).get? name = some value ↔ LastWrite history name value := by
  induction history using List.reverseRecOn with
  | nil =>
      show none = some value ↔ _
      simp only [reduceCtorEq, LastWrite, not_lastPlace_nil]
  | append_singleton history change ih =>
      rw [after_concat, get?_change, ih]
      exact lastPlace_concat.symm

end Attributes

theorem Double.equal_self_iff (value : Double) : value.equal value = true ↔ value ≠ .undefined := by
  cases value with
  | finite negative magnitude =>
      simp only [equal, related, rank?, BEq.rfl, ne_eq, reduceCtorEq, not_false_eq_true]
  | infinite negative =>
      simp only [equal, related, rank?, BEq.rfl, ne_eq, reduceCtorEq, not_false_eq_true]
  | undefined => simp only [equal, related, rank?, Bool.false_eq_true, ne_eq, not_true_eq_false]

theorem AttributeValue.agrees_self_iff (value : AttributeValue) :
    value.agrees value = true ↔ value ≠ .number .undefined := by
  cases value with
  | number held => rw [agrees, Double.equal_self_iff, ne_eq, ne_eq, number.injEq]
  | text held => simp only [agrees, decide_true, ne_eq, reduceCtorEq, not_false_eq_true]

namespace Attributes

/-- Attributes agree with themselves if all their numbers are defined. -/
theorem agrees_self_iff (attributes : Attributes) :
    attributes.agrees attributes = true ↔
      ∀ name, attributes.get? name ≠ some (.number .undefined) := by
  rw [agrees, decide_eq_true rfl, Bool.true_and, List.all_eq_true]
  constructor
  · intro agreeing name found
    have agrees := agreeing _ (NameMap.mem_entries_iff.mpr found)
    rw [found, Option.any_some, AttributeValue.agrees_self_iff] at agrees
    exact agrees rfl
  · rintro defined ⟨name, value⟩ member
    have found := NameMap.mem_entries_iff.mp member
    rw [found, Option.any_some, AttributeValue.agrees_self_iff]
    rintro rfl
    exact defined name found

/-- After any history a name has the value that was last written to it since attributes were last
replaced. Names are listed and counted by that alone, and histories that leave the same values leave
the same attributes. -/
theorem contents_of_history (history : List Change) :
    (∀ name value, (after history).get? name = some value ↔ LastWrite history name value) ∧
    (∀ name, (after history).contains name = true ↔
      ∃ value, (after history).get? name = some value) ∧
    (after history).names.Nodup ∧
    (∀ name, name ∈ (after history).names ↔ ∃ value, (after history).get? name = some value) ∧
    (after history).size = (after history).names.length ∧
    ((after history).isEmpty = true ↔ ∀ name, (after history).get? name = none) ∧
    ∀ other, (∀ name, (after other).get? name = (after history).get? name) →
      after other = after history ∧
        ((after other).agrees (after history) = true ↔
          ∀ name, (after history).get? name ≠ some (.number .undefined)) := by
  refine ⟨fun _ _ => get?_after, fun _ => NameMap.contains_iff, NameMap.nodup_names _,
    fun _ => NameMap.mem_names_iff, NameMap.size_eq _, NameMap.isEmpty_iff, ?_⟩
  intro other same
  have equal := NameMap.ext_get? same
  rw [equal]
  exact ⟨rfl, agrees_self_iff _⟩

/-- A name that is collected twice beside one that differs in case, and a JSON value that has no
attributes; then the same contents by other changes in another order. -/
theorem contents_of_history_reordered :
    let first : List Change := [.insert "b" (.ofInt 1),
      .ofPairs [("a", .ofInt 2), ("A", .text "x"), ("a", .text "y")],
      .ofJson (.object [("a", .null)])]
    let second : List Change := [.insert "a" (.ofInt 3), .clear, .insert "a" (.text "y"),
      .insert "A" (.text "x")]
    LastWrite first "a" (.text "y") ∧ (after first).get? "b" = none ∧
      (after first).names = ["A", "a"] ∧
      (∀ name, (after second).get? name = (after first).get? name) ∧
      after second = after first ∧ (after second).agrees (after first) = true := by
  intro first second
  obtain ⟨found, -, -, -, -, -, determined⟩ := contents_of_history first
  have same (name : String) : (after second).get? name = (after first).get? name := rfl
  obtain ⟨equal, agreeing⟩ := determined second same
  refine ⟨(found "a" (.text "y")).mp rfl, rfl, rfl, same, equal, agreeing.mpr ?_⟩
  intro name held
  have member := NameMap.mem_entries_iff.mpr held
  have texts : ∀ entry ∈ (after first).entries, entry.2 ≠ .number .undefined := by decide
  exact texts _ member rfl

end Attributes

def Action.change? : Action → Option Attributes.Change
  | insert name value => some (.insert name value)
  | replaceJson value => some (.ofJson value)
  | replacePairs pairs => some (.ofPairs pairs)
  | setOptions _ | compile _ _ | serve _ => none

theorem Session.attributes_next (session : Session) (action : Action) :
    (session.next action).attributes =
      action.change?.elim session.attributes session.attributes.change := by
  cases action with
  | insert name value => rfl
  | replaceJson value =>
      show _ = session.attributes.change (.ofJson value)
      cases read : Attributes.ofJson value with
      | ok result => simp only [next, act, read, Attributes.change]
      | error reason =>
          rw [next_of_error (act_replaceJson_error read)]
          simp only [Attributes.change, read]
  | replacePairs pairs => rfl
  | setOptions options => rfl
  | compile slot condition =>
      show _ = session.attributes
      cases accepted : (AdTargeting.compile session.options condition).result with
      | ok compiled => rw [next_compile accepted slot]
      | error reason => rw [next_of_error (act_compile_error accepted slot)]
  | serve slot =>
      rw [next_serve]
      rfl

/-- The attributes of a session are those that its changes leave, whatever is done between them. -/
theorem Session.attributes_run (options : Options) (actions : List Action) :
    ((start options).run actions).attributes =
      Attributes.after (actions.filterMap Action.change?) := by
  induction actions using List.reverseRecOn with
  | nil => rfl
  | append_singleton actions action ih =>
      rw [run_concat, attributes_next, ih, List.filterMap_append]
      cases asked : action.change? with
      | none => simp only [Option.elim_none, List.filterMap_cons, asked, List.filterMap_nil,
          List.append_nil]
      | some change =>
          simp only [Option.elim_some, List.filterMap_cons, asked, List.filterMap_nil,
            Attributes.after_concat]

end AdTargeting
