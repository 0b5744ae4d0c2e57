import Mathlib

namespace LibCommons.Lease

-- A cell of a store with expiry, and who created what it holds.
structure Entry (I V : Type) where
  value : V
  deadline : Nat
  writer : Option I

structure World (K I V : Type) where
  now : Nat
  cells : K → Option (Entry I V)

variable {K I V E : Type} [DecidableEq K] [DecidableEq V] (world : World K I V)

def live (key : K) : Option (Entry I V) := (world.cells key).filter fun entry => world.now < entry.deadline

def held (key : K) (expected : V) : Option (Entry I V) := (live world key).filter fun entry => entry.value = expected

def put (key : K) (entry : Option (Entry I V)) : World K I V := { world with cells := Function.update world.cells key entry }

-- Taking an absent or expired key, in one atomic step.
def Acquires (i : I) (key : K) (candidate : V) (life : Nat) (world : World K I V) (result : Except E (V × Bool))
    (after : World K I V) : Prop :=
  match live world key with
  | some entry => result = .ok (entry.value, false) ∧ after = world
  | none => (∃ current, result = .ok (current, true)) ∧
      after = put world key (some { value := candidate, deadline := world.now + life, writer := some i })

-- Compare and set; with faults the call may report an error, having taken effect or not.
def Swaps (faults : Bool) (key : K) (expected : V) (next : Entry I V → Option (Entry I V)) (world : World K I V)
    (result : Except E Bool) (after : World K I V) : Prop :=
  match held world key expected with
  | some entry => (result = .ok true ∧ after = put world key (next entry)) ∨
      (faults = true ∧ ∃ e, result = .error e ∧ (after = world ∨ after = put world key (next entry)))
  | none => after = world ∧ (result = .ok false ∨ (faults = true ∧ ∃ e, result = .error e))

variable {world : World K I V} {entry : Entry I V}

omit [DecidableEq V] in
theorem live_put_same (key : K) (future : world.now < entry.deadline) : live (put world key (some entry)) key = some entry := by
  simp [live, put, future]

omit [DecidableEq V] in
theorem cells_put_same (world : World K I V) (key : K) (entry : Option (Entry I V)) : (put world key entry).cells key = entry := by
  simp [put]

variable {key : K}

omit [DecidableEq K] [DecidableEq V] in
theorem live_some (found : live world key = some entry) : world.cells key = some entry ∧ world.now < entry.deadline := by
  rw [live, Option.filter_eq_some_iff] at found
  exact ⟨found.1, by simpa using found.2⟩

omit [DecidableEq K] [DecidableEq V] in
theorem live_of_cells (found : world.cells key = some entry) (future : world.now < entry.deadline) : live world key = some entry := by
  simp [live, found, future]

variable {expected : V}

omit [DecidableEq K] in
theorem held_some (found : held world key expected = some entry) : live world key = some entry ∧ entry.value = expected := by
  rw [held, Option.filter_eq_some_iff] at found
  exact ⟨found.1, by simpa using found.2⟩

variable {faults : Bool} {next : Entry I V → Option (Entry I V)} {after : World K I V}

theorem swaps_cases {result : Except E Bool} (swapped : Swaps faults key expected next world result after) : (after = world ∧ result ≠ .ok true) ∨
      ∃ entry, live world key = some entry ∧ entry.value = expected ∧ after = put world key (next entry) := by
  unfold Swaps at swapped
  split at swapped
  · rename_i entry found
    obtain ⟨living, equal⟩ := held_some found
    obtain ⟨-, after⟩ | ⟨-, e, failed, same | after⟩ := swapped
    · exact .inr ⟨entry, living, equal, after⟩
    · exact .inl ⟨same, by simp [failed]⟩
    · exact .inr ⟨entry, living, equal, after⟩
  · obtain ⟨same, refused | ⟨-, _, failed⟩⟩ := swapped
    · exact .inl ⟨same, by simp [refused]⟩
    · exact .inl ⟨same, by simp [failed]⟩

theorem swaps_true (swapped : Swaps (E := E) faults key expected next world (.ok true) after) :
    ∃ entry, live world key = some entry ∧ entry.value = expected ∧ after = put world key (next entry) := by
  obtain ⟨-, denied⟩ | done := swaps_cases swapped
  · exact absurd rfl denied
  · exact done

end LibCommons.Lease
