import LibCommons.Lib.Cells
import LibCommons.Scaled
import LibCommons.Transaction.Posting

namespace LibCommons.Transaction

open Decimal List Option

variable {D : Type} [Decimal D]

-- The caller's balances by ID, and the caller's loop over postings.
abbrev Balances (D : Type) := String → Option (Balance D)

def applyOne (balance : Balance D) (posting : Posting D) : Option (Balance D) := (applyPosting balance posting).toOption

def targetID (posting : Posting D) : String := posting.target.balanceID

def applyPostings (balances : Balances D) (postings : List (Posting D)) : Option (Balances D) :=
  Cells.actAll applyOne targetID balances postings

def attempt (balance : Balance D) (posting : Posting D) : Balance D := (applyOne balance posting).getD balance

def successfulPostings : Balance D → List (Posting D) → List (Posting D)
  | _, [] => []
  | balance, posting :: rest =>
    if (applyOne balance posting).isSome then posting :: successfulPostings (attempt balance posting) rest
    else successfulPostings (attempt balance posting) rest

-- The abstract ledger: a balance is a point, an accepted posting a translation.
def position (balance : Balance D) : ℚ × ℚ := (val balance.available, val balance.onHold)

def delta (posting : Posting D) : ℚ × ℚ :=
  match effect posting.operation posting.status with
  | some direction => (direction.1 * val posting.amount, direction.2 * val posting.amount)
  | none => 0

def holdings (balance : Balance D) : ℚ := val balance.available + val balance.onHold

-- What an operation does to Available plus OnHold, per unit of its amount.
def flow : Operation → ℚ
  | .credit => 1
  | .debit => -1
  | _ => 0

def turnover (posting : Posting D) : ℚ := flow posting.operation * val posting.amount

def amountsOf (operation : Operation) (postings : List (Posting D)) : ℚ :=
  ((postings.filter fun posting => posting.operation = operation).map fun posting => val posting.amount).sum

theorem apply_one_iff (balance after : Balance D) (posting : Posting D) :
    applyOne balance posting = some after ↔ applyPosting balance posting = .ok after := by
  unfold applyOne
  cases applyPosting balance posting with
  | error | ok => simp [Except.toOption]

theorem turnover_sum (postings : List (Posting D)) : (postings.map turnover).sum = amountsOf .credit postings - amountsOf .debit postings := by
  induction postings with
  | nil => simp [amountsOf]
  | cons posting _ ih =>
    simp only [map_cons, sum_cons, ih]
    cases operation : posting.operation <;> simp [amountsOf, turnover, flow, operation] <;> ring

omit [Decimal D] in
theorem same_identity_refl (balance : Balance D) : SameIdentity balance balance := rfl

omit [Decimal D] in
theorem same_identity_trans (first second third : Balance D) (left : SameIdentity first second)
    (right : SameIdentity second third) : SameIdentity first third := by
  unfold SameIdentity at left right ⊢
  rw [right, left]

theorem attempt_run (balance : Balance D) (postings : List (Posting D)) :
    (successfulPostings balance postings).foldlM applyOne balance = some (postings.foldl attempt balance) := by
  induction postings generalizing balance with
  | nil => rfl
  | cons posting _ ih =>
    cases applied : applyOne balance posting with
    | none => simpa [successfulPostings, attempt, applied] using ih balance
    | some after => simpa [successfulPostings, attempt, applied] using ih after

section

variable [LawfulDecimal D]

theorem apply_one_moves (balance after : Balance D) (posting : Posting D) (applied : applyOne balance posting = some after) :
    position after = position balance + delta posting ∧ holdings after = holdings balance + turnover posting ∧
      0 ≤ val after.available ∧ 0 ≤ val after.onHold ∧ after.version = balance.version + 1 ∧
      SameIdentity balance after := by
  obtain ⟨_, _, named, available, onHold, availableOk, onHoldOk, version, identity⟩ := apply_posting_ok ((apply_one_iff _ _ _).mp applied)
  refine ⟨?_, ?_, availableOk, onHoldOk, version, identity⟩
  · simp [position, delta, named, available, onHold]
  simp only [holdings, turnover, available, onHold]
  cases operation : posting.operation <;> cases status : posting.status <;>
    simp only [operation, status, effect, reduceCtorEq, Option.some.injEq] at named
  all_goals
    subst named
    simp only [flow]
    push_cast
    ring

theorem position_translates : Cells.Translates (applyOne (D := D)) position delta :=
  fun balance after posting applied => (apply_one_moves balance after posting applied).1

theorem holdings_translates : Cells.Translates (applyOne (D := D)) holdings turnover :=
  fun balance after posting applied => (apply_one_moves balance after posting applied).2.1

theorem apply_run_versions (postings : List (Posting D)) (balance after : Balance D) (ran : postings.foldlM applyOne balance = some after) :
    after.version = balance.version + Int64.ofNat postings.length ∧ SameIdentity balance after := by
  induction postings generalizing balance with
  | nil =>
    cases ran
    exact ⟨by simp, same_identity_refl _⟩
  | cons posting _ ih =>
    simp only [foldlM_cons, bind_eq_bind, bind_eq_some_iff] at ran
    obtain ⟨middle, applied, ran⟩ := ran
    obtain ⟨_, _, _, _, version, identity⟩ := apply_one_moves balance middle posting applied
    obtain ⟨restVersion, restIdentity⟩ := ih middle ran
    refine ⟨?_, same_identity_trans balance middle after identity restIdentity⟩
    rw [restVersion, version, length_cons, Nat.add_comm, Int64.ofNat_add, Int64.add_assoc]
    rfl

theorem apply_run_nonnegative (postings : List (Posting D)) (balance after : Balance D)
    (availableOk : 0 ≤ val balance.available) (onHoldOk : 0 ≤ val balance.onHold)
    (ran : postings.foldlM applyOne balance = some after) : 0 ≤ val after.available ∧ 0 ≤ val after.onHold := by
  induction postings generalizing balance with
  | nil =>
    cases ran
    exact ⟨availableOk, onHoldOk⟩
  | cons posting _ ih =>
    simp only [foldlM_cons, bind_eq_bind, bind_eq_some_iff] at ran
    obtain ⟨middle, applied, ran⟩ := ran
    obtain ⟨_, _, middleAvailable, middleOnHold, _, _⟩ := apply_one_moves balance middle posting applied
    exact ih middle middleAvailable middleOnHold ran

theorem ledger_run_invariant (start : Balance D) (postings : List (Posting D))
    (availableOk : 0 ≤ val start.available) (onHoldOk : 0 ≤ val start.onHold) :
    0 ≤ val (postings.foldl attempt start).available ∧ 0 ≤ val (postings.foldl attempt start).onHold ∧
      val (postings.foldl attempt start).available + val (postings.foldl attempt start).onHold =
        val start.available + val start.onHold + amountsOf .credit (successfulPostings start postings) -
          amountsOf .debit (successfulPostings start postings) ∧
      (postings.foldl attempt start).version =
        start.version + Int64.ofNat (successfulPostings start postings).length ∧
      SameIdentity start (postings.foldl attempt start) := by
  have ran := attempt_run start postings
  obtain ⟨available, onHold⟩ := apply_run_nonnegative _ start _ availableOk onHoldOk ran
  obtain ⟨version, identity⟩ := apply_run_versions _ start _ ran
  have moved := Cells.translates_run applyOne holdings turnover holdings_translates _ start _ ran
  rw [turnover_sum] at moved
  refine ⟨available, onHold, ?_, version, identity⟩
  rw [add_sub_assoc]
  exact moved

end

def sampleBalance (id account : String) (available : Int) : Balance Scaled :=
  ⟨id, "org", "ledger", account, "USD", ⟨available, 0⟩, ⟨0, 0⟩, 7, .internal, true, true⟩

def samplePosting (amount : Int) (operation : Operation) (status : TransactionStatus) : Posting Scaled :=
  ⟨⟨"acc-a", "bal-a"⟩, "USD", ⟨amount, -1⟩, operation, status, ""⟩

def samplePostings : List (Posting Scaled) := [samplePosting 305 .credit .created, samplePosting 9000 .debit .created,
  samplePosting 500 .onHold .pending, samplePosting 200 .debit .approved, samplePosting 1 .release .approved]

theorem sample_run_invariant :
    (successfulPostings (sampleBalance "bal-a" "acc-a" 100) samplePostings).length = 3 ∧
      holdings (samplePostings.foldl attempt (sampleBalance "bal-a" "acc-a" 100)) =
        holdings (sampleBalance "bal-a" "acc-a" 100) +
          amountsOf .credit (successfulPostings (sampleBalance "bal-a" "acc-a" 100) samplePostings) -
          amountsOf .debit (successfulPostings (sampleBalance "bal-a" "acc-a" 100) samplePostings) ∧
      (samplePostings.foldl attempt (sampleBalance "bal-a" "acc-a" 100)).version = 10 := by
  have run := ledger_run_invariant (sampleBalance "bal-a" "acc-a" 100) samplePostings
    ((is_negative_eq_false _).mp rfl) ((is_negative_eq_false _).mp rfl)
  exact ⟨rfl, run.2.2.1, run.2.2.2.1.trans rfl⟩

end LibCommons.Transaction
