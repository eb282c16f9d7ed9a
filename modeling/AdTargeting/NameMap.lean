set_option autoImplicit false

/-
Finite maps from names. Entries are kept in the code point order of their names, each name once, so
maps with the same entries are equal and the history of writes leaves no other trace.
-/

namespace AdTargeting

/-- Names strictly increase. -/
def Ordered {α : Type} (entries : List (String × α)) : Prop :=
  entries.Pairwise fun left right => left.1 < right.1

structure NameMap (α : Type) where
  entries : List (String × α)
  ordered : Ordered entries

namespace NameMap

variable {α β : Type}

def empty : NameMap α := ⟨[], List.Pairwise.nil⟩

/-- Writes an entry at its place, over the value the name had. -/
def insertEntry (name : String) (value : α) : List (String × α) → List (String × α)
  | [] => [(name, value)]
  | (other, previous) :: rest =>
      if name < other then (name, value) :: (other, previous) :: rest
      else if name = other then (name, value) :: rest
      else (other, previous) :: insertEntry name value rest

theorem mem_insertEntry {name : String} {value : α} {entries : List (String × α)}
    {entry : String × α} (member : entry ∈ insertEntry name value entries) :
    entry = (name, value) ∨ entry ∈ entries := by
  induction entries with
  | nil => exact Or.inl (List.mem_singleton.mp member)
  | cons head rest ih =>
      simp only [insertEntry] at member
      split at member
      · simpa only [List.mem_cons] using member
      · split at member
        · rcases List.mem_cons.mp member with same | inside
          · exact Or.inl same
          · exact Or.inr (List.mem_cons_of_mem _ inside)
        · rcases List.mem_cons.mp member with same | inside
          · exact Or.inr (same ▸ List.mem_cons_self)
          · rcases ih inside with new | old
            · exact Or.inl new
            · exact Or.inr (List.mem_cons_of_mem _ old)

theorem ordered_insertEntry (name : String) (value : α) {entries : List (String × α)}
    (ordered : Ordered entries) : Ordered (insertEntry name value entries) := by
  induction entries with
  | nil => exact List.pairwise_singleton _ _
  | cons head rest ih =>
      obtain ⟨above, tail⟩ := List.pairwise_cons.mp ordered
      simp only [insertEntry]
      split
      · rename_i before
        refine List.pairwise_cons.mpr ⟨fun entry member => ?_, ordered⟩
        rcases List.mem_cons.mp member with rfl | inside
        · exact before
        · exact String.lt_trans before (above entry inside)
      · rename_i notBefore
        split
        · rename_i same
          exact List.pairwise_cons.mpr ⟨fun entry inside => same ▸ above entry inside, tail⟩
        · rename_i different
          refine List.pairwise_cons.mpr ⟨fun entry member => ?_, ih tail⟩
          rcases mem_insertEntry member with rfl | inside
          · rcases Std.lt_trichotomy name head.1 with less | same | greater
            · exact absurd less notBefore
            · exact absurd same different
            · exact greater
          · exact above entry inside

def insert (map : NameMap α) (name : String) (value : α) : NameMap α :=
  ⟨insertEntry name value map.entries, ordered_insertEntry name value map.ordered⟩

/-- Writes the pairs in order, so that the last one of a name stays. -/
def ofList (pairs : List (String × α)) : NameMap α :=
  pairs.foldl (fun map pair => map.insert pair.1 pair.2) empty

def get? (map : NameMap α) (name : String) : Option α := map.entries.lookup name

def contains (map : NameMap α) (name : String) : Bool := (map.get? name).isSome

def names (map : NameMap α) : List String := map.entries.map Prod.fst

def size (map : NameMap α) : Nat := map.entries.length

def isEmpty (map : NameMap α) : Bool := map.entries.isEmpty

@[simp] theorem get?_empty (name : String) : (empty : NameMap α).get? name = none := rfl

theorem lookup_cons (first other : String) (value : α) (rest : List (String × α)) :
    ((first, value) :: rest).lookup other =
      if other = first then some value else rest.lookup other := by
  by_cases same : other = first
  · simp only [same, List.lookup_cons_self, ↓reduceIte]
  · have test : (other == first) = false := beq_eq_false_iff_ne.mpr same
    simp only [List.lookup_cons, test, same, ↓reduceIte]

/-- What was written is found under its name, and all other names keep what they had. -/
theorem lookup_insertEntry (name other : String) (value : α) (entries : List (String × α)) :
    (insertEntry name value entries).lookup other =
      if other = name then some value else entries.lookup other := by
  induction entries with
  | nil => exact lookup_cons name other value []
  | cons head rest ih =>
      obtain ⟨first, previous⟩ := head
      simp only [insertEntry]
      by_cases before : name < first
      · rw [if_pos before, lookup_cons]
      · rw [if_neg before]
        by_cases here : name = first
        · subst here
          rw [if_pos rfl, lookup_cons, lookup_cons]
          split <;> rfl
        · rw [if_neg here, lookup_cons, lookup_cons, ih]
          by_cases same : other = name
          · simp only [same, here, ↓reduceIte]
          · simp only [same, ↓reduceIte]

theorem get?_insert (map : NameMap α) (name other : String) (value : α) :
    (map.insert name value).get? other = if other = name then some value else map.get? other :=
  lookup_insertEntry name other value map.entries

end NameMap

end AdTargeting
