import AdTargeting.Attributes
import AdTargeting.Proofs.Attributes.Entries

set_option autoImplicit false

/-
Attributes from JSON: all fields of an object are taken or none is, and the least name that cannot
be taken is the one that is reported.
-/

namespace AdTargeting

/-- The object has the field. A name that is written more than once means its last field. -/
def Json.HasField (source : Json) (name : String) (field : Json) : Prop :=
  ∃ fields, source = .object fields ∧ LastOf fields name field

/-- What is said of a field that is no scalar. -/
def Json.complaint? : Json → Option String
  | .bool _ => some "booleans are not supported"
  | .null => some "null is not supported"
  | .list _ | .object _ => some "only scalar values are supported"
  | .integer _ | .real _ | .text _ => none

theorem AttributeValue.ofJson_cases (field : Json) :
    (∃ value, ofScalar? field = some value ∧ ofJson field = .ok value) ∨
    ∃ fault, ofScalar? field = none ∧ ofJson field = .error fault ∧
      field.complaint? = some fault.message := by
  cases field with
  | integer value => exact Or.inl ⟨_, rfl, rfl⟩
  | real value => exact Or.inl ⟨_, rfl, rfl⟩
  | text value => exact Or.inl ⟨_, rfl, rfl⟩
  | null => exact Or.inr ⟨.null, rfl, rfl, rfl⟩
  | bool value => exact Or.inr ⟨.boolean, rfl, rfl, rfl⟩
  | list items => exact Or.inr ⟨.collection, rfl, rfl, rfl⟩
  | object fields => exact Or.inr ⟨.collection, rfl, rfl, rfl⟩

namespace Attributes

/-- An object of which every field is a scalar. -/
def Fits (source : Json) : Prop :=
  (∃ fields, source = .object fields) ∧
    ∀ name field, source.HasField name field →
      ∃ value, AttributeValue.ofScalar? field = some value

/-- The field that is no scalar and has the least name of those. -/
structure LeastUnfit (source : Json) (name : String) (field : Json) : Prop where
  present : source.HasField name field
  unfit : AttributeValue.ofScalar? field = none
  least : ∀ other field', source.HasField other field' →
    AttributeValue.ofScalar? field' = none → name ≤ other

/-- The entries that were written for the fields visited so far, in the same order. -/
inductive Written : List (String × Json) → List (String × AttributeValue) → Prop
  | nil : Written [] []
  | concat {fields : List (String × Json)} {entries : List (String × AttributeValue)}
      {name : String} {field : Json} {value : AttributeValue} (earlier : Written fields entries)
      (scalar : AttributeValue.ofScalar? field = some value) :
      Written (fields ++ [(name, field)]) (entries ++ [(name, value)])

section Written

variable {fields : List (String × Json)} {entries : List (String × AttributeValue)}

theorem Written.names (written : Written fields entries) :
    entries.map Prod.fst = fields.map Prod.fst := by
  induction written with
  | nil => rfl
  | concat earlier scalar ih => simp only [List.map_append, ih, List.map_cons, List.map_nil]

theorem Written.scalars (written : Written fields entries) :
    ∀ entry ∈ fields, ∃ value, AttributeValue.ofScalar? entry.2 = some value := by
  induction written with
  | nil => exact List.forall_mem_nil _
  | concat earlier scalar ih =>
      simp only [List.forall_mem_append, List.forall_mem_singleton]
      exact ⟨ih, _, scalar⟩

theorem Written.mem_iff (written : Written fields entries) {name : String}
    {value : AttributeValue} :
    (name, value) ∈ entries ↔
      ∃ field, (name, field) ∈ fields ∧ AttributeValue.ofScalar? field = some value := by
  induction written with
  | nil => simp only [List.not_mem_nil, false_and, exists_false]
  | @concat fields entries last field held earlier scalar ih =>
      simp only [List.mem_append, ih, List.mem_singleton, or_and_right, exists_or, Prod.mk.injEq]
      apply or_congr_right
      constructor
      · rintro ⟨rfl, rfl⟩
        exact ⟨field, ⟨rfl, rfl⟩, scalar⟩
      · rintro ⟨_, ⟨rfl, rfl⟩, found⟩
        rw [scalar] at found
        exact ⟨rfl, (Option.some.inj found).symm⟩

end Written

/-- Visiting the fields in the order of their names writes an entry for each, up to the first that
is no scalar. -/
theorem foldlM_writeEntry {visited rest : List (String × Json)} {attributes : Attributes}
    (ordered : Ordered (visited ++ rest)) (written : Written visited attributes.entries) :
    (∃ result, rest.foldlM writeEntry attributes = .ok result ∧
      Written (visited ++ rest) result.entries) ∨
    ∃ before name field after fault, rest = before ++ (name, field) :: after ∧
      (∀ early ∈ before, ∃ value, AttributeValue.ofScalar? early.2 = some value) ∧
      AttributeValue.ofScalar? field = none ∧ field.complaint? = some fault.message ∧
      rest.foldlM writeEntry attributes = .error ⟨name, fault⟩ := by
  -- The next name comes after all that were visited, so its entry is written behind theirs.
  induction rest generalizing visited attributes with
  | nil => exact Or.inl ⟨attributes, rfl, by rwa [List.append_nil]⟩
  | cons entry rest ih =>
      obtain ⟨name, field⟩ := entry
      rcases AttributeValue.ofJson_cases field with
        ⟨value, scalar, decoded⟩ | ⟨fault, unfit, refused, complaint⟩
      · have step : writeEntry attributes (name, field) = .ok (attributes.insert name value) := by
          simp only [writeEntry, decoded]
        have above : ∀ other ∈ attributes.names, other < name := by
          intro other member
          rw [NameMap.names, written.names] at member
          obtain ⟨early, inside, rfl⟩ := List.mem_map.mp member
          exact (List.pairwise_append.mp ordered).2.2 early inside _ List.mem_cons_self
        have grown : Written (visited ++ [(name, field)])
            (attributes.insert name value).entries := by
          rw [NameMap.entries_insert_of_above above]
          exact .concat written scalar
        rw [List.append_cons] at ordered ⊢
        have run : ((name, field) :: rest).foldlM writeEntry attributes =
            rest.foldlM writeEntry (attributes.insert name value) := by
          rw [List.foldlM_cons, step]
          rfl
        rw [run]
        rcases ih ordered grown with
          taken | ⟨before, bad, unfitField, after, fault, rfl, scalars, unfit, complaint, failed⟩
        · exact Or.inl taken
        · refine Or.inr ⟨(name, field) :: before, bad, unfitField, after, fault, rfl, ?_, unfit,
            complaint, failed⟩
          exact List.forall_mem_cons.mpr ⟨⟨value, scalar⟩, scalars⟩
      · refine Or.inr ⟨[], name, field, rest, fault, rfl, List.forall_mem_nil _, unfit, complaint,
          ?_⟩
        rw [List.foldlM_cons, writeEntry, refused]
        rfl

theorem hasField_object_iff {fields : List (String × Json)} {name : String} {field : Json} :
    (Json.object fields).HasField name field ↔
      (name, field) ∈ (NameMap.ofList fields).entries := by
  rw [NameMap.mem_entries_iff, NameMap.get?_ofList]
  constructor
  · rintro ⟨_, ⟨⟩, last⟩
    exact last
  · intro last
    exact ⟨fields, rfl, last⟩

/-- Reading an object writes all of its fields or finds the least that is no scalar. -/
theorem ofJson_object_cases (fields : List (String × Json)) :
    (∃ attributes, ofJson (.object fields) = .ok attributes ∧
      Written (NameMap.ofList fields).entries attributes.entries) ∨
    ∃ name field fault, LeastUnfit (.object fields) name field ∧
      field.complaint? = some fault.message ∧ ofJson (.object fields) = .error ⟨name, fault⟩ := by
  have ordered : Ordered (NameMap.ofList fields).entries := (NameMap.ofList fields).ordered
  rcases @foldlM_writeEntry [] (NameMap.ofList fields).entries NameMap.empty ordered .nil with
    taken | ⟨before, name, field, after, fault, split, scalars, unfit, complaint, failed⟩
  · exact Or.inl taken
  · refine Or.inr ⟨name, field, fault, ⟨?_, unfit, ?_⟩, complaint, failed⟩
    · rw [hasField_object_iff, split]
      exact List.mem_append_right before List.mem_cons_self
    · intro other field' present unfit'
      rw [hasField_object_iff, split] at present
      rw [split] at ordered
      rcases List.mem_append.mp present with early | later
      · obtain ⟨value, scalar⟩ := scalars _ early
        rw [unfit'] at scalar
        cases scalar
      · rcases List.mem_cons.mp later with same | behind
        · obtain ⟨rfl, -⟩ := Prod.mk.inj same
          exact String.le_refl other
        · have less := (List.pairwise_cons.mp (List.pairwise_append.mp ordered).2.1).1 _ behind
          exact String.not_lt.mp (String.lt_asymm less)

theorem fits_object_iff {fields : List (String × Json)} :
    Fits (.object fields) ↔
      ∀ entry ∈ (NameMap.ofList fields).entries,
        ∃ value, AttributeValue.ofScalar? entry.2 = some value := by
  constructor
  · rintro ⟨-, scalars⟩ ⟨name, field⟩ member
    exact scalars name field (hasField_object_iff.mpr member)
  · intro scalars
    exact ⟨⟨fields, rfl⟩, fun name field present =>
      scalars (name, field) (hasField_object_iff.mp present)⟩

theorem LeastUnfit.not_fits {source : Json} {name : String} {field : Json}
    (least : LeastUnfit source name field) : ¬ Fits source := by
  rintro ⟨-, scalars⟩
  obtain ⟨value, scalar⟩ := scalars name field least.present
  rw [least.unfit] at scalar
  cases scalar

section Read

variable {source : Json} {attributes : Attributes}

theorem exists_written_of_ofJson (read : ofJson source = .ok attributes) :
    ∃ fields, source = .object fields ∧
      Written (NameMap.ofList fields).entries attributes.entries := by
  cases source with
  | object fields =>
      rcases ofJson_object_cases fields with
        ⟨other, read', written⟩ | ⟨name, field, fault, -, -, failed⟩
      · rw [read] at read'
        cases read'
        exact ⟨fields, rfl, written⟩
      · rw [read] at failed
        cases failed
  | _ => cases read

theorem fits_of_ofJson (read : ofJson source = .ok attributes) : Fits source := by
  obtain ⟨fields, rfl, written⟩ := exists_written_of_ofJson read
  exact fits_object_iff.mpr written.scalars

theorem exists_ofJson_iff : (∃ attributes, ofJson source = .ok attributes) ↔ Fits source := by
  constructor
  · rintro ⟨attributes, read⟩
    exact fits_of_ofJson read
  · intro fits
    obtain ⟨fields, rfl⟩ := fits.1
    rcases ofJson_object_cases fields with
      ⟨attributes, read, -⟩ | ⟨name, field, fault, least, -, -⟩
    · exact ⟨attributes, read⟩
    · exact absurd fits least.not_fits

theorem get?_of_ofJson (read : ofJson source = .ok attributes) {name : String}
    {value : AttributeValue} :
    attributes.get? name = some value ↔
      ∃ field, source.HasField name field ∧ AttributeValue.ofScalar? field = some value := by
  obtain ⟨fields, rfl, written⟩ := exists_written_of_ofJson read
  simp only [← NameMap.mem_entries_iff, written.mem_iff, hasField_object_iff]

theorem size_of_ofJson {fields : List (String × Json)}
    (read : ofJson (.object fields) = .ok attributes) :
    attributes.size = (fields.map Prod.fst).dedup.length := by
  obtain ⟨_, ⟨⟩, written⟩ := exists_written_of_ofJson read
  have names : attributes.names = (NameMap.ofList fields).names := written.names
  rw [← NameMap.size_ofList, NameMap.size_eq, NameMap.size_eq, names]

end Read

/-- Attributes are read from an object of scalars and from nothing else, and hold exactly its
fields. Otherwise the least name whose field is no scalar is reported with what is wrong with it,
whatever fields there are beside it. -/
theorem ofJson_all_or_nothing (source : Json) :
    ((∃ attributes, ofJson source = .ok attributes) ↔ Fits source) ∧
    (∀ attributes, ofJson source = .ok attributes →
      (∀ name field, source.HasField name field →
        attributes.get? name = AttributeValue.ofScalar? field) ∧
      (∀ name, (∀ field, ¬ source.HasField name field) → attributes.get? name = none) ∧
      ∀ fields, source = .object fields →
        attributes.size = (fields.map Prod.fst).dedup.length) ∧
    ((∀ fields, source ≠ .object fields) →
      ∃ reason, ofJson source = .error reason ∧ reason.name = "<root>" ∧
        reason.fault.message = "expected a JSON object") ∧
    ((∃ fields, source = .object fields) → ¬ Fits source →
      ∃ reason field, ofJson source = .error reason ∧ LeastUnfit source reason.name field ∧
        field.complaint? = some reason.fault.message) := by
  refine ⟨exists_ofJson_iff, ?_, ?_, ?_⟩
  · intro attributes read
    refine ⟨?_, ?_, ?_⟩
    · intro name field present
      obtain ⟨value, scalar⟩ := (fits_of_ofJson read).2 name field present
      rw [scalar, get?_of_ofJson read]
      exact ⟨field, present, scalar⟩
    · intro name absent
      rw [Option.eq_none_iff_forall_ne_some]
      intro value found
      obtain ⟨field, present, -⟩ := (get?_of_ofJson read).mp found
      exact absent field present
    · rintro fields rfl
      exact size_of_ofJson read
  · intro noObject
    cases source with
    | object fields => exact absurd rfl (noObject fields)
    | _ => exact ⟨⟨"<root>", .notAnObject⟩, rfl, rfl, rfl⟩
  · rintro ⟨fields, rfl⟩ unfit
    rcases ofJson_object_cases fields with
      ⟨attributes, read, -⟩ | ⟨name, field, fault, least, complaint, failed⟩
    · exact absurd (fits_of_ofJson read) unfit
    · exact ⟨⟨name, fault⟩, field, failed, least, complaint⟩

/-- A name that is written twice, a value that is no object, and three fields that are no
scalars. -/
theorem ofJson_all_or_nothing_mixed :
    let good := Json.object [("b", .null), ("a", .integer 1), ("b", .text "x")]
    let bad := Json.object [("z", .null), ("b", .list []), ("a", .integer 1), ("B", .bool true)]
    (∃ attributes, ofJson good = .ok attributes ∧ attributes.get? "b" = some (.text "x") ∧
      attributes.get? "B" = none ∧ attributes.size = 2) ∧
    (∃ reason, ofJson (.list [good]) = .error reason ∧ reason.name = "<root>") ∧
    ∃ reason field, ofJson bad = .error reason ∧ reason.name = "B" ∧
      LeastUnfit bad reason.name field ∧
      field.complaint? = some "booleans are not supported" := by
  intro good bad
  obtain ⟨accepted, held, -, -⟩ := ofJson_all_or_nothing good
  obtain ⟨-, -, noObject, -⟩ := ofJson_all_or_nothing (.list [good])
  obtain ⟨-, -, -, refused⟩ := ofJson_all_or_nothing bad
  obtain ⟨attributes, read⟩ := accepted.mpr <| by
    show Fits (.object _)
    rw [fits_object_iff]
    show ∀ entry ∈ [("a", Json.integer 1), ("b", Json.text "x")], _
    simp only [List.forall_mem_cons]
    exact ⟨⟨_, rfl⟩, ⟨_, rfl⟩, nofun⟩
  obtain ⟨found, absent, counted⟩ := held attributes read
  have unfit : ¬ Fits bad := by
    rintro ⟨-, scalars⟩
    obtain ⟨value, scalar⟩ := scalars "z" .null ⟨_, rfl, [], _, _, rfl, rfl, by decide⟩
    cases scalar
  obtain ⟨reason, other, root, -⟩ := noObject nofun
  obtain ⟨least, field, failed, first, complaint⟩ := refused ⟨_, rfl⟩ unfit
  have name : least = ⟨"B", .boolean⟩ := by
    have evaluated : (ofJson bad).map (fun _ => ()) = .error ⟨"B", .boolean⟩ := by decide +kernel
    rw [failed] at evaluated
    exact Except.error.inj evaluated
  subst name
  refine ⟨⟨attributes, read, ?_, ?_, counted _ rfl⟩, ⟨reason, other, root⟩,
    ⟨"B", .boolean⟩, field, failed, rfl, first, complaint⟩
  · exact found "b" (.text "x") ⟨_, rfl, [("b", .null), ("a", .integer 1)], _, [], rfl, rfl, nofun⟩
  · apply absent
    rintro field ⟨fields, same, last⟩
    cases (Json.object.inj same)
    exact absurd (exists_lastOf_iff.mp ⟨field, last⟩) (by decide)

end Attributes

end AdTargeting
