import Mathlib

namespace LibCommons

open List

-- A finite collection in which no two items have the same key.
structure Keyed {α κ : Type} (key : α → κ) where
  items : List α
  unique : (items.map key).Nodup

namespace Keyed

variable {α κ : Type} [DecidableEq κ] {key : α → κ}

def get? (collection : Keyed key) (k : κ) : Option α := collection.items.find? fun item => key item = k

variable (collection : Keyed key)

def modify (k : κ) (change : α → α) (keeps : ∀ item, key (change item) = key item) : Keyed key where
  items := collection.items.map fun item => if key item = k then change item else item
  unique := by
    have same : (collection.items.map fun item => if key item = k then change item else item).map key = collection.items.map key := by
      rw [map_map]
      refine map_congr_left fun item _ => ?_
      rw [Function.comp_apply]
      split
      · exact keeps item
      · rfl
    rw [same]
    exact collection.unique

def insert (item : α) (fresh : key item ∉ collection.items.map key) : Keyed key where
  items := item :: collection.items
  unique := nodup_cons.mpr ⟨fresh, collection.unique⟩

theorem get_some_iff (k : κ) (item : α) : collection.get? k = some item ↔ item ∈ collection.items ∧ key item = k := by
  constructor
  · intro found
    exact ⟨mem_of_find?_eq_some found, by simpa using find?_some found⟩
  rintro ⟨member, rfl⟩
  cases found : collection.get? (key item) with
  | none =>
    have missed := find?_eq_none.mp found item member
    simp at missed
  | some other =>
    have same : key other = key item := by simpa using find?_some found
    rw [inj_on_of_nodup_map collection.unique (mem_of_find?_eq_some found) member same]

theorem get_mem {collection : Keyed key} {item : α} (member : item ∈ collection.items) :
    collection.get? (key item) = some item := (get_some_iff collection (key item) item).mpr ⟨member, rfl⟩

section

variable (collection : Keyed key) (k : κ) (change : α → α) (keeps : ∀ item, key (change item) = key item)

theorem modify_get_self (item : α) (found : collection.get? k = some item) : (collection.modify k change keeps).get? k = some (change item) := by
  obtain ⟨member, rfl⟩ := (get_some_iff collection k item).mp found
  exact (get_some_iff _ _ _).mpr ⟨mem_map.mpr ⟨item, member, if_pos rfl⟩, keeps item⟩

theorem modify_get_other (other : κ) (different : other ≠ k) : (collection.modify k change keeps).get? other = collection.get? other := by
  ext item
  rw [get_some_iff, get_some_iff]
  constructor
  · rintro ⟨member, rfl⟩
    obtain ⟨old, found, rfl⟩ := mem_map.mp member
    by_cases here : key old = k
    · rw [if_pos here, keeps, here] at different
      exact absurd rfl different
    · rw [if_neg here]
      exact ⟨found, rfl⟩
  · rintro ⟨member, rfl⟩
    exact ⟨mem_map.mpr ⟨item, member, if_neg different⟩, rfl⟩

theorem modify_congr (other : α → α) (also : ∀ item, key (other item) = key item)
    (agree : ∀ item, collection.get? k = some item → change item = other item) :
    collection.modify k change keeps = collection.modify k other also := by
  simp only [modify, Keyed.mk.injEq]
  refine map_congr_left fun item member => ?_
  by_cases here : key item = k
  · rw [if_pos here, if_pos here, agree item ((get_some_iff _ _ _).mpr ⟨member, here⟩)]
  · rw [if_neg here, if_neg here]

end

theorem insert_get {collection : Keyed key} {item : α} (fresh : key item ∉ collection.items.map key) (k : κ) :
    (collection.insert item fresh).get? k = if key item = k then some item else collection.get? k := by
  simp only [get?, insert, find?_cons]
  by_cases here : key item = k <;> simp [here]

end Keyed

end LibCommons
