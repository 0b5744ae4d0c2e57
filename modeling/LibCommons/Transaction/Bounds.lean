import LibCommons.Transaction.Eligibility

namespace LibCommons.Transaction

open Decimal Checked Safe List LawfulDecimal

variable {D : Type} [Decimal D]

-- A share comes at the total's exponent less the division precision.
def allocatedValue (total : D) (allocation : Allocation D) : ℚ :=
  match allocation.amount, allocation.share with
  | some amount, _ => val amount
  | none, some share => val total * roundPlaces divisionPrecision (val share / 100)
  | none, none => 0

def allocatedExponent (total : D) (allocation : Allocation D) : Option ℤ :=
  match allocation.amount, allocation.share with
  | some amount, _ => some (exponent amount)
  | none, some _ => some (exponent total - divisionPrecision)
  | none, none => none

-- decimal.Zero, from which the running sum starts, has exponent 1.
def finestExponent (total : D) (allocations : List (Allocation D)) : ℤ :=
  min (exponent total) ((allocations.filterMap (allocatedExponent total)).foldl min 1)

structure SideFits (total : D) (allocations : List (Allocation D)) : Prop where
  shares : ∀ allocation ∈ allocations, ∀ share, allocation.share = some share → -maxDecimalExponent + divisionPrecision ≤ exponent total ∧
      coefficient total * roundHalfAway (val share * 10 ^ 14) < 10 ^ maxDecimalDigits
  remainder : ∀ allocation ∈ allocations, allocation.remainder = true → val total - (allocations.map (allocatedValue total)).sum <
      10 ^ (maxDecimalDigits + finestExponent total allocations)

-- A refusal of a posting or a value as outside the supported decimal range.
def BoundsRefusal (refusal : DomainError) : Prop :=
  refusal.code = .invalidInput ∧ refusal.message = "value is outside the supported decimal range"

def NotBounds (refusal : DomainError) : Prop := ¬ BoundsRefusal refusal

@[simp] theorem not_bounds_new (code : ErrorCode) (field message : String) :
    NotBounds (newDomainError code field message) ↔
      ¬ (code = .invalidInput ∧ message = "value is outside the supported decimal range") := by
  simp [NotBounds, BoundsRefusal, newDomainError]

variable {refusal : DomainError}

theorem guarded_refuses {α : Type} (condition) [Decidable condition] (other : NotBounds refusal)
    {next : Unit → Except DomainError α} (later : Refuses NotBounds (next ())) :
    Refuses NotBounds (refuse condition refusal >>= next) :=
  refuses_bind (refuses_refuse _ other) fun _ => later

theorem check_bounds_refuses {value : D} (field) (bounded : InBounds value) : Refuses NotBounds (checkBounds value field) := by
  rw [(check_bounds_ok_iff value field).mpr bounded]
  exact refuses_ok _ ()

theorem apply_operation_refuses (balance : Balance D) (posting : Posting D) : Refuses NotBounds (applyPostingOperation balance posting) := by
  intro _ refused
  cases operation : posting.operation <;> cases status : posting.status <;>
    simp only [applyPostingOperation, applyOnHold, applyRelease, applyDebit, applyCredit, operation, status, ne_eq,
      reduceCtorEq, not_true_eq_false, not_false_eq_true, if_true, if_false, Except.error.injEq] at refused
  all_goals
    subst refused
    simp

variable {posting : Posting D}

theorem apply_posting_refuses (balance : Balance D) (bounded : InBounds posting.amount) : Refuses NotBounds (applyPosting balance posting) := by
  have target : Refuses NotBounds (posting.target.validate "posting.target") := by
    unfold LedgerTarget.validate
    split
    · exact refuses_error (by simp)
    · split
      · exact refuses_error (by simp)
      · exact refuses_ok _ ()
  have admitted : Refuses NotBounds (validatePostingAgainstBalance balance posting) := by
    refine refuses_bind target fun _ => ?_
    refine guarded_refuses _ (by simp) ?_
    refine guarded_refuses _ (by simp) ?_
    refine guarded_refuses _ (by simp) ?_
    refine refuses_bind (check_bounds_refuses _ bounded) fun _ => ?_
    exact refuses_refuse _ (by simp)
  refine refuses_bind admitted fun _ => ?_
  refine refuses_bind (apply_operation_refuses balance posting) fun updated => ?_
  refine refuses_bind ?_ fun _ => refuses_ok _ _
  refine guarded_refuses _ (by simp) ?_
  exact refuses_refuse _ (by simp)

omit [Decimal D] in
theorem validate_scope_refuses (ref : ScopeRef) (balance : Balance D) (field : String) : Refuses NotBounds (validateScope ref balance field) := by
  intro _ refused
  unfold validateScope at refused
  split_ifs at refused <;> cases refused <;> simp

omit [Decimal D] in
theorem lookup_balance_refuses (balances : Catalog D) (posting : Posting D) (other : NotBounds refusal) :
    Refuses NotBounds (lookupBalance balances posting refusal) := by
  unfold lookupBalance
  split
  · exact refuses_ok _ _
  · exact refuses_error other

theorem validate_source_refuses (plan balances ref)
    (bounded : InBounds posting.amount) : Refuses NotBounds (validateSourcePosting plan balances ref posting) := by
  refine refuses_bind (lookup_balance_refuses _ _ (by simp)) fun balance => ?_
  refine guarded_refuses _ (by simp) ?_
  refine refuses_bind (validate_scope_refuses _ _ _) fun _ => ?_
  refine guarded_refuses _ (by simp) ?_
  refine guarded_refuses _ (by simp) ?_
  refine refuses_bind (check_bounds_refuses _ bounded) fun _ => ?_
  refine guarded_refuses _ (by simp) ?_
  refine guarded_refuses _ (by simp) ?_
  exact refuses_ok _ _

theorem validate_destination_refuses (plan : IntentPlan D) (balances : Catalog D) (ref : ScopeRef) (posting : Posting D) :
    Refuses NotBounds (validateDestinationPosting plan balances ref posting) := by
  refine refuses_bind (lookup_balance_refuses _ _ (by simp)) fun balance => ?_
  refine guarded_refuses _ (by simp) ?_
  refine refuses_bind (validate_scope_refuses _ _ _) fun _ => ?_
  refine guarded_refuses _ (by simp) ?_
  refine guarded_refuses _ (by simp) ?_
  refine refuses_bind ?_ fun _ => refuses_ok _ _
  intro _ refused
  unfold validateExternalDestinationBalance at refused
  split_ifs at refused <;> cases refused <;> simp

theorem validate_eligibility_refuses {plan} (balances : Catalog D) (bounded : ∀ posting ∈ plan.sources, InBounds posting.amount) :
    Refuses NotBounds (validateBalanceEligibility plan balances) := by
  refine guarded_refuses _ (by simp) ?_
  refine refuses_bind (refuses_foldlM (fun ref posting member => validate_source_refuses plan balances ref (bounded posting member)) _) fun _ => ?_
  refine refuses_bind (refuses_foldlM (fun ref posting _ => validate_destination_refuses plan balances ref posting) _) fun _ => ?_
  exact refuses_ok _ ()

theorem finest_exponent_bounded {total : D} {allocations : List (Allocation D)} (bounded : InBounds total)
    (accepted : ∀ allocation ∈ allocations, Accepted total allocation)
    (shares : ∀ allocation ∈ allocations, ∀ share, allocation.share = some share → -maxDecimalExponent + divisionPrecision ≤ exponent total) :
    |finestExponent total allocations| ≤ maxDecimalExponent := by
  have totalExponent := abs_le.mp ((in_bounds_iff total).mp bounded).1
  have folded : -maxDecimalExponent ≤ (allocations.filterMap (allocatedExponent total)).foldl min 1 := by
    refine ListFacts.le_foldl_min _ _ _ (by decide) fun e member => ?_
    obtain ⟨allocation, allocated, named⟩ := mem_filterMap.mp member
    cases amountEq : allocation.amount with
    | some amount =>
      obtain rfl : exponent amount = e := by simpa [allocatedExponent, amountEq] using named
      have inBounds := ((accepted allocation allocated).amount amount amountEq).2.1
      exact (abs_le.mp ((in_bounds_iff amount).mp inBounds).1).1
    | none =>
      cases shareEq : allocation.share with
      | none => simp [allocatedExponent, amountEq, shareEq] at named
      | some share =>
        obtain rfl : exponent total - divisionPrecision = e := by
          simpa [allocatedExponent, amountEq, shareEq] using named
        have room := shares allocation allocated share shareEq
        linarith
  rw [abs_le, finestExponent]
  exact ⟨le_min totalExponent.1 folded, (min_le_left _ _).trans totalExponent.2⟩

section

variable [LawfulScale D]

theorem in_bounds_positive_iff {d : D} (positive : 0 < val d) :
    InBounds d ↔ |exponent d| ≤ maxDecimalExponent ∧ val d < 10 ^ (maxDecimalDigits + exponent d) := by
  have scale : (0 : ℚ) < (10 : ℚ) ^ exponent d := by positivity
  have coefficientPos : 0 < coefficient d := by
    have := (mul_pos_iff_of_pos_right scale).mp positive
    exact_mod_cast this
  have digits : numDigits d ≤ maxDecimalDigits ↔ coefficient d < 10 ^ maxDecimalDigits := by
    have length := Nat.digits_length_le_iff (b := 10) (k := maxDecimalDigits) (by decide) (coefficient d).natAbs
    rw [LawfulScale.num_digits, max_le_iff, and_iff_right (by decide), length, ← Int.natAbs_of_nonneg coefficientPos.le]
    exact_mod_cast Iff.rfl
  have value : val d < 10 ^ (maxDecimalDigits + exponent d) ↔ coefficient d < 10 ^ maxDecimalDigits := by
    rw [val, zpow_add₀ (by norm_num), mul_lt_mul_iff_left₀ scale, zpow_natCast]
    exact_mod_cast Iff.rfl
  rw [in_bounds_iff, digits, value]

theorem exponent_foldl_add (amounts : List D) (start : D) :
    exponent (amounts.foldl add start) = (amounts.map exponent).foldl min (exponent start) := by
  induction amounts generalizing start with
  | nil => rfl
  | cons _ _ ih => rw [foldl_cons, ih, LawfulScale.exponent_add, map_cons, foldl_cons]

theorem exponent_share_amount (total share : D) : exponent (shareAmount total share) = exponent total - divisionPrecision := by
  rw [shareAmount, LawfulScale.exponent_mul, LawfulScale.exponent_div, sub_eq_add_neg]

theorem exponent_draft (total : D) (allocation) : (draftAmount total allocation).map exponent = allocatedExponent total allocation := by
  cases amountEq : allocation.amount with
  | some => simp [draftAmount, allocatedExponent, amountEq]
  | none => cases shareEq : allocation.share <;>
      simp [draftAmount, allocatedExponent, amountEq, shareEq, exponent_share_amount]

theorem exponent_remainder (total : D) (allocations) :
    exponent (sub total (allocatedAmount total allocations)) = finestExponent total allocations := by
  rw [LawfulScale.exponent_sub, allocatedAmount, exponent_foldl_add, LawfulScale.exponent_zero, finestExponent, map_filterMap]
  simp only [exponent_draft]

end

section

variable [LawfulDecimal D]

theorem val_draft (total : D) (allocation) : ((draftAmount total allocation).map val).getD 0 = allocatedValue total allocation := by
  cases amountEq : allocation.amount with
  | some => simp [draftAmount, allocatedValue, amountEq]
  | none => cases shareEq : allocation.share <;>
      simp [draftAmount, allocatedValue, amountEq, shareEq, val_share_amount]

theorem val_allocated_amount (total : D) (allocations) : val (allocatedAmount total allocations) = (allocations.map (allocatedValue total)).sum := by
  rw [allocatedAmount, val_foldl_add, val_zero, zero_add]
  induction allocations with
  | nil => rfl
  | cons head _ ih =>
    rw [map_cons, sum_cons, ← ih, ← val_draft]
    cases draft : draftAmount total head <;> simp [draft]

variable [LawfulScale D] {total : D}

theorem share_in_bounds_iff {share : D} (bounded : InBounds total) (positive : isPositive (shareAmount total share) = true) :
    InBounds (shareAmount total share) ↔ -maxDecimalExponent + divisionPrecision ≤ exponent total ∧
      coefficient total * roundHalfAway (val share * 10 ^ 14) < 10 ^ maxDecimalDigits := by
  have totalExponent := abs_le.mp ((in_bounds_iff total).mp bounded).1
  rw [in_bounds_positive_iff ((is_positive_iff _).mp positive), exponent_share_amount, val_share_amount]
  refine and_congr ?_ ?_
  · rw [abs_le]
    simp only [maxDecimalExponent, divisionPrecision] at *
    omega
  -- Both sides of the bound carry the scale of the share amount.
  have scale : (0 : ℚ) < (10 : ℚ) ^ (exponent total - (divisionPrecision : ℤ)) := by positivity
  have units : val share / 100 * 10 ^ divisionPrecision = val share * 10 ^ 14 := by
    rw [divisionPrecision]
    ring
  have scaled : val total * roundPlaces divisionPrecision (val share / 100) =
      ((coefficient total * roundHalfAway (val share * 10 ^ 14) : ℤ) : ℚ) * 10 ^ (exponent total - (divisionPrecision : ℤ)) := by
    rw [roundPlaces, units, val, zpow_sub₀ (by norm_num), zpow_natCast]
    push_cast
    ring
  rw [scaled, zpow_add₀ (by norm_num), mul_lt_mul_iff_left₀ scale, zpow_natCast]
  exact_mod_cast Iff.rfl

variable {allocations : List (Allocation D)}

theorem remainder_in_bounds_iff (exponentOk : |finestExponent total allocations| ≤ maxDecimalExponent)
    (positive : isPositive (sub total (allocatedAmount total allocations)) = true) :
    InBounds (sub total (allocatedAmount total allocations)) ↔ val total - (allocations.map (allocatedValue total)).sum <
        10 ^ (maxDecimalDigits + finestExponent total allocations) := by
  rw [in_bounds_positive_iff ((is_positive_iff _).mp positive), exponent_remainder, val_sub, val_allocated_amount, and_iff_right exponentOk]

theorem side_in_bounds_iff {asset : String} {operation : Operation} {status : TransactionStatus} {postings : List (Posting D)}
    (bounded : InBounds total) (built : Built asset total operation status allocations postings) :
    (∀ posting ∈ postings, InBounds posting.amount) ↔ SideFits total allocations := by
  have shared : ∀ allocation ∈ allocations, ∀ share, allocation.share = some share →
      (InBounds (settledPosting asset total (sub total (allocatedAmount total allocations)) operation status
        allocation).amount ↔ -maxDecimalExponent + divisionPrecision ≤ exponent total ∧
        coefficient total * roundHalfAway (val share * 10 ^ 14) < 10 ^ maxDecimalDigits) := by
    intro allocation allocated share shareEq
    obtain ⟨amountEq, _, _, _, positive⟩ := (built.accepted allocation allocated).share share shareEq
    rw [← share_in_bounds_iff bounded positive]
    simp [settledPosting, draftAmount, amountEq, shareEq]
  have rest : ∀ allocation ∈ allocations, draftAmount total allocation = none → (∀ other ∈ allocations, ∀ share, other.share = some share →
        -maxDecimalExponent + divisionPrecision ≤ exponent total) →
      (InBounds (settledPosting asset total (sub total (allocatedAmount total allocations)) operation status
        allocation).amount ↔ val total - (allocations.map (allocatedValue total)).sum <
          10 ^ (maxDecimalDigits + finestExponent total allocations)) := by
    intro allocation allocated late room
    rw [← remainder_in_bounds_iff (finest_exponent_bounded bounded built.accepted room) (built.positive allocation allocated late)]
    simp [settledPosting, late]
  rw [built.settled]
  simp only [List.mem_map, forall_exists_index, and_imp, forall_apply_eq_imp_iff₂]
  constructor
  · intro inBounds
    have shares : ∀ allocation ∈ allocations, ∀ share, allocation.share = some share → -maxDecimalExponent + divisionPrecision ≤ exponent total ∧
          coefficient total * roundHalfAway (val share * 10 ^ 14) < 10 ^ maxDecimalDigits :=
      fun allocation allocated share shareEq => (shared allocation allocated share shareEq).mp (inBounds allocation allocated)
    refine ⟨shares, fun allocation allocated remainder => ?_⟩
    have late : draftAmount total allocation = none := by
      simpa [remainder] using (built.accepted allocation allocated).remainder
    exact (rest allocation allocated late fun other member share shareEq => (shares other member share shareEq).1).mp (inBounds allocation allocated)
  · intro fits allocation allocated
    have accepted := built.accepted allocation allocated
    cases amountEq : allocation.amount with
    | some amount =>
      simpa [settledPosting, draftAmount, amountEq] using (accepted.amount amount amountEq).2.1
    | none =>
      cases shareEq : allocation.share with
      | some share => exact (shared allocation allocated share shareEq).mpr (fits.shares allocation allocated share shareEq)
      | none =>
        have late : draftAmount total allocation = none := by simp [draftAmount, amountEq, shareEq]
        have remainder : allocation.remainder = true := by simpa [late] using accepted.remainder
        exact (rest allocation allocated late fun other member share same => (fits.shares other member share same).1).mpr
          (fits.remainder allocation allocated remainder)

theorem plan_amounts_in_bounds_iff (input : TransactionIntentInput D) (status : TransactionStatus)
    (plan : IntentPlan D) (built : buildIntentPlan input status = .ok plan) :
    ((∀ posting ∈ plan.sources ++ plan.destinations, InBounds posting.amount) ∧
      (∀ posting ∈ plan.sources ++ plan.destinations, ∀ balance refusal,
        applyPosting balance posting = .error refusal → ¬ BoundsRefusal refusal) ∧
      ∀ balances refusal, validateBalanceEligibility plan balances = .error refusal → ¬ BoundsRefusal refusal) ↔
    SideFits input.total input.sources ∧ SideFits input.total input.destinations := by
  have made := build_intent_plan_ok input status plan built
  obtain ⟨_, _, sources⟩ := made.sources
  obtain ⟨_, _, destinations⟩ := made.destinations
  rw [← side_in_bounds_iff made.bounded sources, ← side_in_bounds_iff made.bounded destinations, ← forall_mem_append]
  constructor
  · rintro ⟨inBounds, _⟩
    exact inBounds
  intro inBounds
  exact ⟨inBounds, fun posting member balance => apply_posting_refuses balance (inBounds posting member),
    fun balances => validate_eligibility_refuses balances fun posting member =>
      inBounds posting (mem_append_left _ member)⟩

end

theorem sample_plan_in_bounds : ∃ plan, buildIntentPlan (sampleInput false) .created = .ok plan ∧
    SideFits (sampleInput false).total (sampleInput false).sources ∧
    SideFits (sampleInput false).total (sampleInput false).destinations := by
  have inBounds : ∀ plan, buildIntentPlan (sampleInput false) .created = .ok plan →
      ∀ posting ∈ plan.sources ++ plan.destinations, InBounds posting.amount := by
    rintro _ ⟨⟩
    decide
  refine ⟨_, rfl, (plan_amounts_in_bounds_iff (sampleInput false) .created _ rfl).mp ⟨inBounds _ rfl, ?_, ?_⟩⟩
  · exact fun posting member balance => apply_posting_refuses balance (inBounds _ rfl posting member)
  · exact fun balances => validate_eligibility_refuses balances fun posting member =>
      inBounds _ rfl posting (mem_append_left _ member)

def finestInput : TransactionIntentInput Scaled where
  asset := "USD"
  total := ⟨2, -1000⟩
  pending := false
  sources := [⟨⟨"acc-a", "bal-a"⟩, none, some ⟨50, 0⟩, false, ""⟩, ⟨⟨"acc-b", "bal-b"⟩, none, some ⟨50, 0⟩, false, ""⟩]
  destinations := [⟨⟨"acc-c", "bal-c"⟩, some ⟨2, -1000⟩, none, false, ""⟩]

def finestPlan : IntentPlan Scaled where
  asset := "USD"
  total := ⟨2, -1000⟩
  pending := false
  sources := [⟨⟨"acc-a", "bal-a"⟩, "USD", ⟨10 ^ 16, -1016⟩, .debit, .created, ""⟩,
    ⟨⟨"acc-b", "bal-b"⟩, "USD", ⟨10 ^ 16, -1016⟩, .debit, .created, ""⟩]
  destinations := [⟨⟨"acc-c", "bal-c"⟩, "USD", ⟨2, -1000⟩, .credit, .created, ""⟩]

theorem plan_amount_out_of_bounds : ¬ ∀ (input : TransactionIntentInput Scaled) (status : TransactionStatus)
    (plan : IntentPlan Scaled), buildIntentPlan input status = .ok plan →
      ∀ posting ∈ plan.sources ++ plan.destinations, InBounds posting.amount := by
  intro inBounds
  have built : buildIntentPlan finestInput .created = .ok finestPlan := by decide +kernel
  have refused : ¬ ∀ posting ∈ finestPlan.sources ++ finestPlan.destinations, InBounds posting.amount := by
    decide +kernel
  exact refused (inBounds finestInput .created finestPlan built)

end LibCommons.Transaction
