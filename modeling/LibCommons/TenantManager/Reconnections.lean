import LibCommons.TenantManager.Mongo
import LibCommons.TenantManager.Rabbitmq

namespace LibCommons.Reconnections

open Function

open Connections hiding Step
open Threads (go Step)

def closing : Calls := ⟨true, false⟩

section

variable {T I : Type} [DecidableEq T] [DecidableEq I]

theorem reconnections_accounted (settings : Settings) : (∀ (labels : List (I × Label T String)) (state : TenantMongo.Clients T I),
      Run (Step (TenantMongo.Move closing settings)) start labels state → Tidy state.world ∧
      ((∀ i, state.phase i = .idle) → ∀ conn, conn < state.world.conns.length → Rests state.world conn)) ∧
    (∀ (labels : List (I × Label T String)) (state : TenantRabbitmq.Links T I),
      Run (Step (TenantRabbitmq.Move settings)) start labels state → Tidy state.world ∧
      ((∀ i, state.phase i = .idle) → ∀ conn, conn < state.world.conns.length → Rests state.world conn)) := by
  constructor
  · intro labels state run
    have sound := run_sound _ _ settings rfl labels state (Threads.run_mono (TenantMongo.move_refines closing settings) _ _ _ run)
    exact ⟨sound.tidy, sound_rests sound⟩
  · intro labels state run
    have sound := run_sound _ _ settings rfl labels state (Threads.run_mono (TenantRabbitmq.move_refines settings) _ _ _ run)
    exact ⟨sound.tidy, sound_rests sound⟩

end

variable {C N : Type}

theorem quiet_not_old {F : Type} {state : State Nat C N F Nat} (quiet : Quiet state) (tenantID stamp : Nat) :
    ∀ j, ¬ Old tenantID stamp state.world.closed (state.phase j) := by
  intro j old
  rw [quiet.2.2 j] at old
  cases old

theorem empty_not_late {world : World Nat C N} (empty : world.connections = ∅) :
    ∀ tenantID conn, world.connections.lookup tenantID = some conn → world.late conn = false := by
  intro _ _ held
  rw [empty] at held
  cases held

theorem mongo_closed_run : ∃ (labels : List (Nat × Label Nat String)) (state : TenantMongo.Clients Nat Nat),
    Run (Step (TenantMongo.Move closing ⟨0, 0, 0⟩)) start (labels ++ [(2, .closedConnection 7 2)]) state ∧
    state.world.conns.length = 1 ∧ Quiet state ∧ state.world.connections = ∅ := by
  have opened : Run (Step (TenantMongo.Move closing ⟨0, 0, 0⟩)) (start : TenantMongo.Clients Nat Nat) _ _ :=
    go 0 (.call _ 7) <| go 0 (.missing _ 7 none rfl rfl) <|
    go 0 (.snapshotMissing _ 7 none rfl rfl) <| go 0 (.core (.sendNew _ 7 none)) <|
    go 0 (.core (.newArrives _ 7 1 none ⟨"mongodb://db", "ledger", 0, false⟩)) <|
    go 0 (.core (.connects _ 7 _ 1 none)) <|
    go 0 (.core (.cacheInstalls _ 7 0 _ 1 none [] 0 rfl rfl (List.Perm.refl _))) <|
    go 0 (.core (.returns _ 7 0)) <| go 1 (.core (.close _ rfl)) <|
    go 1 (.core (.closeNext _ 0 [])) <| go 1 (.core (.closedAll _)) <|
    go 1 (.core (.waited _ rfl)) <| go 2 (.core (.closeConnection _ 7)) <|
    go 2 (.core (.closeMissing _ 7 2 false rfl)) <| .nil _
  refine ⟨_, _, opened.snoc (.move _ 2 _ _ _ (.core (.closeReturns _ 7 2 false))), rfl, ⟨rfl, rfl, ?_⟩, rfl⟩
  intro i
  by_cases zero : i = 0 <;> by_cases one : i = 1 <;> by_cases two : i = 2 <;> simp [update, start, zero, one, two]

theorem rabbitmq_closed_run : ∃ (labels : List (Nat × Label Nat String)) (state : TenantRabbitmq.Links Nat Nat),
    Run (Step (TenantRabbitmq.Move ⟨0, 0, 0⟩)) start (labels ++ [(2, .closedConnection 7 2)]) state ∧
    state.world.conns.length = 1 ∧ Quiet state ∧ state.world.connections = ∅ := by
  have opened : Run (Step (TenantRabbitmq.Move ⟨0, 0, 0⟩)) (start : TenantRabbitmq.Links Nat Nat) _ _ :=
    go 0 (.call _ 7) <| go 0 (.miss _ 7 rfl rfl) <| go 0 (.create _ 7 rfl rfl) <|
    go 0 (.core (.sendNew _ 7 none)) <| go 0 (.core (.newArrives _ 7 1 none ⟨"amqp://mq", ""⟩)) <|
    go 0 (.core (.connects _ 7 _ 1 none)) <|
    go 0 (.core (.cacheInstalls _ 7 0 _ 1 none [] 0 rfl rfl (List.Perm.refl _))) <|
    go 0 (.core (.returns _ 7 0)) <| go 1 (.core (.close _ rfl)) <|
    go 1 (.core (.closedAll _)) <| go 1 (.core (.waited _ rfl)) <|
    go 2 (.core (.closeConnection _ 7)) <| go 2 (.core (.closeMissing _ 7 2 false rfl)) <| .nil _
  refine ⟨_, _, opened.snoc (.move _ 2 _ _ _ (.core (.closeReturns _ 7 2 false))), rfl, ⟨rfl, rfl, ?_⟩, rfl⟩
  intro i
  by_cases zero : i = 0 <;> by_cases one : i = 1 <;> by_cases two : i = 2 <;> simp [update, start, zero, one, two]

theorem closed_managers_accounted :
    (∃ labels, ∃ state : TenantMongo.Clients Nat Nat, Run (Step (TenantMongo.Move closing ⟨0, 0, 0⟩)) start labels state ∧
      state.world.conns.length = 1 ∧ Rests state.world 0) ∧
    ∃ labels, ∃ state : TenantRabbitmq.Links Nat Nat, Run (Step (TenantRabbitmq.Move ⟨0, 0, 0⟩)) start labels state ∧
      state.world.conns.length = 1 ∧ Rests state.world 0 := by
  obtain ⟨_, client, mongo, one, clients, -⟩ := mongo_closed_run
  obtain ⟨_, link, rabbitmq, only, links, -⟩ := rabbitmq_closed_run
  obtain ⟨first, second⟩ := reconnections_accounted (T := Nat) (I := Nat) ⟨0, 0, 0⟩
  exact ⟨⟨_, client, mongo, one, (first _ _ mongo).2 clients.2.2 0 (by omega)⟩,
    _, link, rabbitmq, only, (second _ _ rabbitmq).2 links.2.2 0 (by omega)⟩

end LibCommons.Reconnections
