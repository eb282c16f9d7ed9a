import AdTargeting.Condition.Expression

set_option autoImplicit false

/-
What a computation reports about itself while it runs. Records are part of the result, and those
made before a failure stay.
-/

namespace AdTargeting

inductive LogRecord where
  /-- Nothing can match because there are no attributes. -/
  | noAttributes
  /-- A name that no comparison follows is not used. -/
  | droppedName (name : String) (position : Nat)
  | parsed (condition : String) (comparisons : Nat)
  | compared (comparison : Comparison) (verdict : Bool)
  | absent (name : String)
deriving DecidableEq

namespace LogRecord

def level : LogRecord → String
  | noAttributes => "DEBUG"
  | absent _ => "DEBUG"
  | _ => "TRACE"

def verdictText (verdict : Bool) : String := if verdict then "true" else "false"

def message : LogRecord → String
  | noAttributes => "No attributes supplied, nothing can match"
  | droppedName name position =>
      s!"Dropping '{name}' at position {position}, no comparison follows it"
  | parsed condition comparisons =>
      s!"Parsed condition '{condition}' into {comparisons} comparisons"
  | compared comparison verdict =>
      String.ofList comparison.chars ++ " -> " ++ verdictText verdict
  | absent name => s!"Attribute '{name}' is not present, condition cannot match"

def text (record : LogRecord) : String := record.level ++ " " ++ record.message

end LogRecord

structure Logged (ε α : Type) where
  records : List LogRecord
  result : Except ε α

namespace Logged

variable {ε ε' α β : Type}

def pure (value : α) : Logged ε α := ⟨[], .ok value⟩

def fail (reason : ε) : Logged ε α := ⟨[], .error reason⟩

def returned (result : Except ε α) : Logged ε α := ⟨[], result⟩

/-- The same computation with a record made first. -/
def after (record : LogRecord) (rest : Logged ε α) : Logged ε α :=
  { rest with records := record :: rest.records }

def bind (first : Logged ε α) (next : α → Logged ε β) : Logged ε β :=
  match first.result with
  | .ok value =>
      let rest := next value
      { rest with records := first.records ++ rest.records }
  | .error reason => ⟨first.records, .error reason⟩

def record (entry : LogRecord) : Logged ε Unit := ⟨[entry], .ok ()⟩

instance : Monad (Logged ε) where
  pure := pure
  bind := bind

theorem bind_of_ok (first : Logged ε α) (next : α → Logged ε β) (value : α)
    (success : first.result = .ok value) :
    bind first next = ⟨first.records ++ (next value).records, (next value).result⟩ := by
  simp only [bind, success]

theorem bind_of_error (first : Logged ε α) (next : α → Logged ε β) (reason : ε)
    (failed : first.result = .error reason) :
    bind first next = ⟨first.records, .error reason⟩ := by
  simp only [bind, failed]

theorem result_bind (first : Logged ε α) (next : α → Logged ε β) :
    (first >>= next).result = first.result.bind fun value => (next value).result := by
  show (bind first next).result = _
  cases outcome : first.result with
  | error reason =>
      rw [bind_of_error first next reason outcome]
      rfl
  | ok value =>
      rw [bind_of_ok first next value outcome]
      rfl

theorem records_bind_of_ok (first : Logged ε α) (next : α → Logged ε β) (value : α)
    (success : first.result = .ok value) :
    (first >>= next).records = first.records ++ (next value).records :=
  congrArg Logged.records (bind_of_ok first next value success)

theorem records_bind_of_error (first : Logged ε α) (next : α → Logged ε β) (reason : ε)
    (failed : first.result = .error reason) : (first >>= next).records = first.records :=
  congrArg Logged.records (bind_of_error first next reason failed)

theorem pure_bind (value : α) (next : α → Logged ε β) : bind (pure value) next = next value := rfl

theorem bind_assoc {γ : Type} (first : Logged ε α) (next : α → Logged ε β)
    (last : β → Logged ε γ) :
    bind (bind first next) last = bind first fun value => bind (next value) last := by
  cases outcome : first.result with
  | error reason =>
      rw [bind_of_error first next reason outcome, bind_of_error first _ reason outcome]
      rfl
  | ok value =>
      rw [bind_of_ok first next value outcome, bind_of_ok first _ value outcome]
      cases later : (next value).result with
      | error reason =>
          rw [bind_of_error (next value) last reason later]
          rfl
      | ok final =>
          rw [bind_of_ok (next value) last final later]
          simp only [bind, List.append_assoc]

/-- What follows a computation matters only for the value that it gives. -/
theorem bind_congr {first : Logged ε α} {next next' : α → Logged ε β}
    (same : ∀ value, first.result = .ok value → next value = next' value) :
    bind first next = bind first next' := by
  cases outcome : first.result with
  | error reason => rw [bind_of_error _ _ reason outcome, bind_of_error _ _ reason outcome]
  | ok value =>
      rw [bind_of_ok _ _ value outcome, bind_of_ok _ _ value outcome, same value outcome]

end Logged

section Results

variable {ε α β : Type} {result : Except ε α}

/-- An error is found without looking at values. -/
theorem eq_error_of_map {reason : ε} (failed : result.map (fun _ => ()) = .error reason) :
    result = .error reason := by
  cases result with
  | ok value => cases failed
  | error other => rw [Except.error.inj failed]

theorem exists_ok_of_map {read : α → β} {seen : β} (found : result.map read = .ok seen) :
    ∃ value, result = .ok value ∧ read value = seen := by
  cases result with
  | ok value => exact ⟨value, rfl, Except.ok.inj found⟩
  | error reason => cases found

end Results

end AdTargeting
