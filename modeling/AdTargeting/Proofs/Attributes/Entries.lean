import AdTargeting.NameMap
import AdTargeting.Proofs.Text.Parts
import Mathlib.Data.List.Dedup
import Mathlib.Data.List.Induction

set_option autoImplicit false

/-
What is found in a map, listed of it and counted in it. A map is determined by what is found in it,
and one made from pairs has for each name the last of them.
-/

namespace AdTargeting

/-- The last of the pairs with the name has the value. -/
def LastOf {α : Type} (pairs : List (String × α)) (name : String) (value : α) : Prop :=
  LastPlace (· = (name, value)) (·.1 = name) pairs

section LastOf

variable {α : Type} {pairs : List (String × α)} {name : String} {value : α}

theorem not_lastOf_nil : ¬ LastOf [] name value := not_lastPlace_nil

/-- A pair at the end is the last with its name, and does not matter for other names. -/
theorem lastOf_concat {pair : String × α} :
    LastOf (pairs ++ [pair]) name value ↔
      pair = (name, value) ∨ (pair.1 ≠ name ∧ LastOf pairs name value) := lastPlace_concat

theorem exists_lastOf_iff : (∃ value, LastOf pairs name value) ↔ name ∈ pairs.map Prod.fst := by
  induction pairs using List.reverseRecOn with
  | nil => simp only [not_lastOf_nil, exists_false, List.map_nil, List.not_mem_nil]
  | append_singleton pairs pair ih =>
      simp only [lastOf_concat, exists_or, exists_and_left, ih, List.map_append, List.mem_append,
        List.map_cons, List.map_nil, List.mem_singleton]
      by_cases here : pair.1 = name
      · simp only [here, ne_eq, not_true_eq_false, false_and, or_false, or_true, iff_true]
        exact ⟨pair.2, by rw [← here]⟩
      · have other (value : α) : pair ≠ (name, value) := fun same => here (congrArg Prod.fst same)
        simp only [other, exists_false, false_or, ne_eq, here, not_false_eq_true, true_and,
          Ne.symm here, or_false]

end LastOf

namespace NameMap

section Found

variable {α : Type} {map : NameMap α} {name : String} {value : α}

theorem mem_entries_iff : (name, value) ∈ map.entries ↔ map.get? name = some value := by
  rw [get?, List.lookup_eq_some_iff]
  constructor
  · intro member
    obtain ⟨before, after, split⟩ := List.append_of_mem member
    refine ⟨before, after, split, fun pair early => ?_⟩
    have ordered := map.ordered
    rw [split] at ordered
    have less : pair.1 < name :=
      (List.pairwise_append.mp ordered).2.2 pair early (name, value) List.mem_cons_self
    exact bne_iff_ne.mpr (Ne.symm (Std.ne_of_lt less))
  · rintro ⟨before, after, split, -⟩
    rw [split]
    exact List.mem_append_right _ List.mem_cons_self

theorem mem_names_iff : name ∈ map.names ↔ ∃ value, map.get? name = some value := by
  simp only [names, List.mem_map, Prod.exists, exists_and_right, exists_eq_right, mem_entries_iff]

theorem contains_iff : map.contains name = true ↔ ∃ value, map.get? name = some value := by
  rw [contains, Option.isSome_iff_exists]

theorem isEmpty_iff : map.isEmpty = true ↔ ∀ name, map.get? name = none := by
  rw [isEmpty, List.isEmpty_iff, List.eq_nil_iff_forall_not_mem]
  constructor
  · intro none_in name
    rw [Option.eq_none_iff_forall_ne_some]
    intro value found
    exact none_in (name, value) (mem_entries_iff.mpr found)
  · intro nothing pair member
    have found := mem_entries_iff.mp (show (pair.1, pair.2) ∈ map.entries from member)
    rw [nothing pair.1] at found
    cases found

theorem nodup_names (map : NameMap α) : map.names.Nodup := by
  rw [names, List.Nodup, List.pairwise_map]
  exact map.ordered.imp fun less => Std.ne_of_lt less

theorem size_eq (map : NameMap α) : map.size = map.names.length := (List.length_map _).symm

theorem ext_get? {left right : NameMap α} (same : ∀ name, left.get? name = right.get? name) :
    left = right := by
  have apart (map : NameMap α) : map.entries.Nodup :=
    List.Nodup.of_map Prod.fst (nodup_names map)
  have perm : left.entries.Perm right.entries := by
    apply (List.perm_ext_iff_of_nodup (apart left) (apart right)).mpr
    intro pair
    show (pair.1, pair.2) ∈ left.entries ↔ (pair.1, pair.2) ∈ right.entries
    rw [mem_entries_iff, mem_entries_iff, same]
  have equal : left.entries = right.entries := by
    apply perm.eq_of_pairwise _ left.ordered right.ordered
    intro pair other _ _ less greater
    exact absurd greater (String.lt_asymm less)
  cases left
  cases right
  cases equal
  rfl

theorem insertEntry_of_above {entries : List (String × α)}
    (above : ∀ entry ∈ entries, entry.1 < name) :
    insertEntry name value entries = entries ++ [(name, value)] := by
  induction entries with
  | nil => rfl
  | cons head rest ih =>
      obtain ⟨less, later⟩ := List.forall_mem_cons.mp above
      rw [insertEntry, if_neg (String.lt_asymm less), if_neg (Ne.symm (Std.ne_of_lt less)),
        ih later, List.cons_append]

theorem entries_insert_of_above (above : ∀ other ∈ map.names, other < name) :
    (map.insert name value).entries = map.entries ++ [(name, value)] :=
  insertEntry_of_above fun _ member => above _ (List.mem_map_of_mem member)

end Found

section Made

variable {α : Type} {pairs : List (String × α)} {name : String}

theorem ofList_concat (pairs : List (String × α)) (pair : String × α) :
    ofList (pairs ++ [pair]) = (ofList pairs).insert pair.1 pair.2 := List.foldl_append

theorem get?_ofList {value : α} :
    (ofList pairs).get? name = some value ↔ LastOf pairs name value := by
  induction pairs using List.reverseRecOn with
  | nil =>
      show none = some value ↔ _
      simp only [reduceCtorEq, not_lastOf_nil]
  | append_singleton pairs pair ih =>
      rw [ofList_concat, get?_insert, lastOf_concat]
      by_cases here : name = pair.1
      · rw [if_pos here]
        subst here
        simp only [Option.some.injEq, ne_eq, not_true_eq_false, false_and, or_false]
        exact ⟨fun same => same ▸ rfl, fun same => congrArg Prod.snd same⟩
      · have other : pair ≠ (name, value) := fun same => here (congrArg Prod.fst same).symm
        rw [if_neg here, ih]
        simp only [other, false_or, ne_eq, Ne.symm here, not_false_eq_true, true_and]

/-- Pairs make as many entries as they have different names. -/
theorem size_ofList (pairs : List (String × α)) :
    (ofList pairs).size = (pairs.map Prod.fst).dedup.length := by
  rw [size_eq]
  apply List.Perm.length_eq
  apply (List.perm_ext_iff_of_nodup (nodup_names _) (List.nodup_dedup _)).mpr
  intro name
  simp only [mem_names_iff, get?_ofList, exists_lastOf_iff, List.mem_dedup]

end Made

end NameMap

end AdTargeting
