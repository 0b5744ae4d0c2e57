import Mathlib

namespace LibCommons.MultiMap

open List

variable {K V : Type} [DecidableEq K]

def valuesOf (pairs : List (K × V)) (name : K) : List V := (pairs.filter fun pair => pair.1 = name).map Prod.snd

def append (map : AList fun _ : K => List V) (pair : K × V) : AList fun _ : K => List V :=
  map.insert pair.1 ((map.lookup pair.1).getD [] ++ [pair.2])

def collect (pairs : List (K × V)) : AList fun _ : K => List V := pairs.foldl append ∅

variable (pairs : List (K × V))

theorem values_of_concat (pair) (name : K) : valuesOf (pairs ++ [pair]) name = valuesOf pairs name ++ if pair.1 = name then [pair.2] else [] := by
  by_cases same : pair.1 = name <;> simp [valuesOf, same]

theorem lookup_collect (name : K) : (collect pairs).lookup name = if valuesOf pairs name = [] then none else some (valuesOf pairs name) := by
  induction pairs using List.reverseRecOn with
  | nil => rfl
  | append_singleton pairs pair ih =>
    rw [collect, foldl_append, foldl_cons, foldl_nil, ← collect, append, values_of_concat]
    by_cases same : pair.1 = name
    · subst same
      rw [AList.lookup_insert, ih]
      by_cases none : valuesOf pairs pair.1 = [] <;> simp [none]
    · rw [AList.lookup_insert_ne (Ne.symm same), ih]
      simp [same]

theorem get_collect (name : K) : ((collect pairs).lookup name).getD [] = valuesOf pairs name := by
  rw [lookup_collect]
  by_cases none : valuesOf pairs name = [] <;> simp [none]

theorem mem_collect (name : K) : name ∈ collect pairs ↔ valuesOf pairs name ≠ [] := by
  rw [← AList.lookup_isSome, lookup_collect]
  by_cases none : valuesOf pairs name = [] <;> simp [none]

theorem lookup_insert_loop (keep : (Sigma fun _ : K => List V) → Prop) [DecidablePred keep]
    (value : (Sigma fun _ : K => List V) → List V) (entries : List (Sigma fun _ : K => List V)) (unique : entries.NodupKeys)
    (start : AList fun _ : K => List V) (name : K) :
    (entries.foldl (fun map entry => if keep entry then map.insert entry.1 (value entry) else map) start).lookup name =
      match entries.dlookup name with
      | some values => if keep ⟨name, values⟩ then some (value ⟨name, values⟩) else start.lookup name
      | none => start.lookup name := by
  induction entries generalizing start with
  | nil => rfl
  | cons entry entries ih =>
    obtain ⟨key, values⟩ := entry
    rw [nodupKeys_cons] at unique
    rw [foldl_cons, ih unique.2]
    by_cases same : key = name
    · subst same
      have absent : entries.dlookup key = none := dlookup_eq_none.mpr unique.1
      rw [absent, dlookup_cons_eq]
      by_cases kept : keep ⟨key, values⟩ <;> simp [kept]
    · rw [dlookup_cons_ne _ _ (Ne.symm same)]
      by_cases kept : keep ⟨key, values⟩
      · simp [kept, AList.lookup_insert_ne (Ne.symm same)]
      · simp [kept]

end LibCommons.MultiMap
