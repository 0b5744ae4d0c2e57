import LibCommons.Outbox.Postgres

namespace LibCommons.Outbox

structure Life where
  status : OutboxEventStatus
  attempts : Int
  handouts : Nat

-- A claim that commits may still be lost on its way, so delivered is 0 or 1.
inductive Advance (maxAttempts : Int) : Life → Life → Prop where
  | claim (attempts handouts delivered) (once : delivered ≤ 1) :
      Advance maxAttempts ⟨.pending, attempts, handouts⟩ ⟨.processing, attempts, handouts + delivered⟩
  | retry (attempts handouts delivered) (once : delivered ≤ 1) (left : attempts < maxAttempts) :
      Advance maxAttempts ⟨.failed, attempts, handouts⟩ ⟨.processing, attempts, handouts + delivered⟩
  | reclaim (attempts handouts delivered) (once : delivered ≤ 1) (left : attempts + 1 < maxAttempts) :
      Advance maxAttempts ⟨.processing, attempts, handouts⟩ ⟨.processing, attempts + 1, handouts + delivered⟩
  | fail (attempts handouts) (left : attempts + 1 < maxAttempts) :
      Advance maxAttempts ⟨.processing, attempts, handouts⟩ ⟨.failed, attempts + 1, handouts⟩
  | exhaust (attempts handouts) (spent : maxAttempts ≤ attempts + 1) :
      Advance maxAttempts ⟨.processing, attempts, handouts⟩ ⟨.invalid, attempts + 1, handouts⟩
  | publish (attempts handouts) : Advance maxAttempts ⟨.processing, attempts, handouts⟩ ⟨.published, attempts, handouts⟩
  | reject (attempts handouts) : Advance maxAttempts ⟨.processing, attempts, handouts⟩ ⟨.invalid, attempts, handouts⟩

def terminal (status : OutboxEventStatus) : Prop := status = .published ∨ status = .invalid

def Within (maxAttempts : Int) (life : Life) : Prop :=
  match life.status with
  | .pending | .failed => life.handouts ≤ life.attempts ∧ life.attempts < maxAttempts
  | .processing => life.handouts ≤ life.attempts + 1 ∧ life.attempts + 1 ≤ maxAttempts
  | .published | .invalid => life.handouts ≤ maxAttempts

variable {maxAttempts : Int} {before after : Life} (moved : Advance maxAttempts before after)

include moved

theorem advance_within (within : Within maxAttempts before) : Within maxAttempts after := by
  cases moved <;> simp only [Within] at within ⊢ <;> omega

theorem advance_attempts : before.attempts ≤ after.attempts := by
  cases moved <;> simp only <;> omega

theorem advance_not_terminal : ¬ terminal before.status := by
  cases moved <;> simp [terminal]

omit moved

variable {life : Life}

theorem within_handouts (within : Within maxAttempts life) : life.handouts ≤ maxAttempts := by
  cases status : life.status <;> simp only [Within, status] at within <;> omega

theorem within_spent (within : Within maxAttempts life) (spent : maxAttempts ≤ life.attempts) : terminal life.status := by
  cases status : life.status <;> simp only [Within, status] at within
  case pending | failed | processing => omega
  case published => exact Or.inl rfl
  case invalid => exact Or.inr rfl

end LibCommons.Outbox
