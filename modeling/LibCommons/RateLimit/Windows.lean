import LibCommons.RateLimit.Limiter

namespace LibCommons.RateLimit

open List

structure Evaluation where
  time : Nat
  window : Nat
  opened : Bool
  verdict : Verdict
  key : Key
deriving DecidableEq, Repr

-- A window lives from the evaluation that finds no key to the next that finds none.
structure State where
  key : Key
  windows : Nat
deriving DecidableEq, Repr

def State.initial : State := ⟨none, 0⟩

def State.evaluate (tier : Tier) (now : Nat) (state : State) : State × Evaluation :=
  let outcome := check tier now state.key
  let opened := (state.key.live now).isNone
  let windows := if opened then state.windows + 1 else state.windows
  (⟨outcome.1, windows⟩, ⟨now, windows, opened, outcome.2, outcome.1⟩)

def evaluations (tier : Tier) : State → List Nat → List Evaluation
  | _, [] => []
  | state, now :: times => (state.evaluate tier now).2 :: evaluations tier (state.evaluate tier now).1 times

def Evaluation.admitted (evaluation : Evaluation) : Bool := evaluation.verdict.admitted

def Tier.windowMs (tier : Tier) : Nat := (milliseconds tier.window).toNat

def State.Counts (state : State) (count : Int) (moment : Nat) : Prop := state.key = some ⟨count, some moment⟩ ∧ 1 ≤ count

section

variable {tier : Tier} (positive : 0 < tier.max) (enforced : 1 ≤ milliseconds tier.window)

include enforced in
theorem increment_script (now : Nat) (key : Key) : increment tier.window now key =
      match luaIncrExpire tier.windowMs now key with
      | .error cause => .error (.redis cause)
      | .ok (counter, count, ttlMs) =>
        .ok (counter, count, (if ttlMs < 0 then milliseconds tier.window else ttlMs) * 1000000) := by
  have window : ¬(tier.window ≤ 0 ∨ milliseconds tier.window ≤ 0) := by
    have below (down : tier.window ≤ 0) : milliseconds tier.window ≤ 0 := by
      have up := Int.tdiv_nonneg (Int.neg_nonneg_of_nonpos down) (by decide : (0 : Int) ≤ 1000000)
      rw [Int.neg_tdiv] at up
      exact Int.nonpos_of_neg_nonneg up
    omega
  rw [increment, if_neg window]
  rfl

include positive enforced in
theorem evaluate_opens (now : Nat) (state : State) (absent : state.key.live now = none) :
    let outcome := state.evaluate tier now
    outcome.1 = ⟨some ⟨1, some (now + tier.windowMs)⟩, state.windows + 1⟩ ∧
      outcome.2.time = now ∧ outcome.2.window = state.windows + 1 ∧ outcome.2.opened = true ∧
        outcome.2.key = some ⟨1, some (now + tier.windowMs)⟩ := by
  have script : luaIncrExpire tier.windowMs now state.key = .ok (⟨1, some (now + tier.windowMs)⟩, 1, tier.windowMs) := by
    rw [luaIncrExpire, absent]
    rfl
  have first : (1 : Int) ≤ tier.max := by omega
  have outcome : (check tier now state.key).1 = some ⟨1, some (now + tier.windowMs)⟩ := by
    rw [check, increment_script enforced, script]
    simp only [if_pos first]
  simp [State.evaluate, absent, outcome]

-- An evaluation inside a window counts one up; at the largest number INCR fails and the key stays.
include enforced in
theorem evaluate_counts (now : Nat) (state : State) (count : Int) (moment : Nat) (counts : state.Counts count moment) (running : now < moment) :
    let outcome := state.evaluate tier now
    ∃ count', outcome.1.Counts count' moment ∧ outcome.1.windows = state.windows ∧
      outcome.2.time = now ∧ outcome.2.window = state.windows ∧ outcome.2.opened = false ∧
        outcome.2.key = some ⟨count', some moment⟩ ∧ count ≤ count' ∧ (outcome.2.admitted = true → count' = count + 1 ∧ count' ≤ tier.max) := by
  obtain ⟨key, started⟩ := counts
  have live : state.key.live now = some ⟨count, some moment⟩ := by simp [key, Key.live, running]
  by_cases full : count = 2 ^ 63 - 1
  · have script : luaIncrExpire tier.windowMs now state.key = .error .overflow := by
      rw [luaIncrExpire, live, incr, if_pos full]
      rfl
    have outcome : check tier now state.key = (some ⟨count, some moment⟩, .redisError (.redis .overflow)) := by
      rw [check, increment_script enforced, script, key]
    refine ⟨count, ?_⟩
    simp [State.evaluate, live, outcome, State.Counts, started, Evaluation.admitted, Verdict.admitted]
  · have later : ¬count + 1 = 1 := by omega
    have ahead : ¬((moment : Int) - now < 0) := by omega
    have script : luaIncrExpire tier.windowMs now state.key = .ok (⟨count + 1, some moment⟩, count + 1, (moment : Int) - now) := by
      rw [luaIncrExpire, live, incr, if_neg full]
      simp only [pttl, bind, Except.bind, pure, Except.pure, if_neg later]
      exact if_neg ahead
    refine ⟨count + 1, ?_⟩
    by_cases within : count + 1 ≤ (tier.max : Int)
    · have outcome : (check tier now state.key).1 = some ⟨count + 1, some moment⟩ := by
        rw [check, increment_script enforced, script]
        simp only [if_pos within]
      have more : 1 ≤ count + 1 := by omega
      simp [State.evaluate, live, outcome, State.Counts, within]
      omega
    · have outcome : check tier now state.key = (some ⟨count + 1, some moment⟩, .limitExceeded ((moment - now) * 1000000)) := by
        rw [check, increment_script enforced, script]
        simp only [if_neg within, if_neg ahead]
      simp [State.evaluate, live, outcome, State.Counts, Evaluation.admitted, Verdict.admitted]
      omega

end

section

variable {tier : Tier} (positive : 0 < tier.max) (enforced : 1 ≤ milliseconds tier.window)

-- The key is absent, or holds a count that ends at most a window after the last evaluation.
def State.Timed (tier : Tier) (last : Nat) (state : State) : Prop :=
  state.key = none ∨ ∃ count moment, state.Counts count moment ∧ moment ≤ last + tier.windowMs

def State.left (tier : Tier) (state : State) : Nat :=
  match state.key with
  | none => 0
  | some counter => (tier.max - counter.value).toNat

def Apart (tier : Tier) (first second : Evaluation) : Prop :=
  first.window ≤ second.window ∧ (first.window + 2 ≤ second.window → first.time + tier.windowMs < second.time) ∧
    (first.opened = true → second.opened = true → first.time + tier.windowMs ≤ second.time)

theorem live_cases (now : Nat) {state : State} (timed : ∃ last, state.Timed tier last) :
    state.key.live now = none ∨ ∃ count moment, state.Counts count moment ∧ now < moment := by
  obtain ⟨_, absent | ⟨count, moment, counts, -⟩⟩ := timed
  · left
    simp [absent, Key.live]
  by_cases running : now < moment
  · exact .inr ⟨count, moment, counts, running⟩
  · left
    simp [counts.1, Key.live, running]

include positive enforced in
theorem evaluate_timed (now last : Nat) (state : State) (later : last ≤ now) (timed : state.Timed tier last) :
    let outcome := state.evaluate tier now
    ∃ count moment, outcome.1.Counts count moment ∧ outcome.2.key = some ⟨count, some moment⟩ ∧ now < moment ∧ moment ≤ now + tier.windowMs := by
  intro outcome
  have span : 0 < tier.windowMs := by
    unfold Tier.windowMs
    omega
  rcases live_cases now ⟨last, timed⟩ with absent | ⟨count, moment, counts, running⟩
  · obtain ⟨next, -, -, -, key⟩ := evaluate_opens positive enforced now state absent
    exact ⟨1, now + tier.windowMs, ⟨by rw [next], le_rfl⟩, key, by omega, le_rfl⟩
  obtain ⟨count', counts', -, -, -, -, key, -, -⟩ := evaluate_counts enforced now state count moment counts running
  refine ⟨count', moment, counts', key, running, ?_⟩
  rcases timed with absent | ⟨_, moment', counts'', bound⟩
  · rw [counts.1] at absent
    cases absent
  · have same := counts.1.symm.trans counts''.1
    simp only [Option.some.injEq, Counter.mk.injEq] at same
    omega

variable (times : List Nat) (state : State)

include positive enforced in
theorem expiry_kept (last : Nat) (ordered : (last :: times).Pairwise (· ≤ ·)) (timed : state.Timed tier last) :
    ∀ evaluation ∈ evaluations tier state times, ∃ counter moment, evaluation.key = some counter ∧
      counter.expiresAt = some moment ∧ evaluation.time < moment ∧ moment ≤ evaluation.time + tier.windowMs := by
  induction times generalizing state last with
  | nil => simp [evaluations]
  | cons now _ ih =>
    rw [pairwise_cons] at ordered
    obtain ⟨count, moment, counts, key, ahead, bound⟩ := evaluate_timed positive enforced now last state (ordered.1 now (by simp)) timed
    simp only [evaluations, mem_cons, forall_eq_or_imp]
    constructor
    · exact ⟨⟨count, some moment⟩, moment, key, rfl, ahead, bound⟩
    · exact ih _ now ordered.2 (.inr ⟨count, moment, counts, bound⟩)

def State.allowance (tier : Tier) (state : State) (window : Nat) : Nat :=
  if window < state.windows then 0 else if window = state.windows then state.left tier else tier.max

include positive enforced in
theorem allowance_step (now : Nat) (state : State) (timed : ∃ last, state.Timed tier last) (window : Nat) :
    let outcome := state.evaluate tier now
    outcome.1.allowance tier window + (if outcome.2.window = window ∧ outcome.2.admitted = true then 1 else 0) ≤ state.allowance tier window := by
  intro outcome
  rcases live_cases now timed with absent | ⟨count, moment, counts, running⟩
  · obtain ⟨next, -, number, -, -⟩ := evaluate_opens positive enforced now state absent
    have fresh : outcome.1.left tier = tier.max - 1 := by
      rw [next]
      simp [State.left]
    have windows : outcome.1.windows = state.windows + 1 := by rw [next]
    simp only [State.allowance, windows, fresh, outcome, number]
    split_ifs <;> omega
  · obtain ⟨count', counts', windows, -, number, -, -, _, spent⟩ := evaluate_counts enforced now state count moment counts running
    have before : state.left tier = (tier.max - count).toNat := by simp [State.left, counts.1]
    have after : outcome.1.left tier = (tier.max - count').toNat := by simp [State.left, outcome, counts'.1]
    simp only [State.allowance, outcome, windows, after, before, number]
    by_cases admitted : outcome.2.admitted = true
    · have spent := spent admitted
      simp only [outcome, admitted, and_true]
      split_ifs <;> omega
    · simp only [outcome, Bool.not_eq_true] at admitted
      simp only [admitted, Bool.false_eq_true, and_false, if_false]
      split_ifs <;> omega

include positive enforced in
theorem budget_kept (last : Nat) (ordered : (last :: times).Pairwise (· ≤ ·)) (timed : state.Timed tier last) (window : Nat) :
    (evaluations tier state times).countP (fun evaluation => evaluation.window = window ∧ evaluation.admitted = true) ≤
      state.allowance tier window := by
  induction times generalizing state last with
  | nil => simp [evaluations]
  | cons now _ ih =>
    rw [pairwise_cons] at ordered
    obtain ⟨count, moment, counts, -, -, bound⟩ := evaluate_timed positive enforced now last state (ordered.1 now (by simp)) timed
    have rest := ih (state.evaluate tier now).1 now ordered.2 (.inr ⟨count, moment, counts, bound⟩)
    have step := allowance_step positive enforced now state ⟨last, timed⟩ window
    simp only [evaluations, countP_cons, decide_eq_true_eq]
    omega

theorem time_ge (last : Nat) (ordered : (last :: times).Pairwise (· ≤ ·)) : ∀ evaluation ∈ evaluations tier state times, last ≤ evaluation.time := by
  induction times generalizing state last with
  | nil => simp [evaluations]
  | cons now _ ih =>
    rw [pairwise_cons] at ordered
    have here := ordered.1 now (by simp)
    simp only [evaluations, mem_cons, forall_eq_or_imp]
    exact ⟨here, fun evaluation member => here.trans (ih _ now ordered.2 evaluation member)⟩

include positive enforced in
theorem later_windows (last : Nat) (ordered : (last :: times).Pairwise (· ≤ ·)) (count : Int) (moment : Nat) (counts : state.Counts count moment) :
    ∀ evaluation ∈ evaluations tier state times, state.windows ≤ evaluation.window ∧ (state.windows < evaluation.window → moment ≤ evaluation.time) ∧
        (state.windows + 2 ≤ evaluation.window → moment + tier.windowMs ≤ evaluation.time) ∧
          (evaluation.opened = true → state.windows < evaluation.window) := by
  induction times generalizing state last count moment with
  | nil => simp [evaluations]
  | cons now times ih =>
    rw [pairwise_cons] at ordered
    simp only [evaluations, mem_cons, forall_eq_or_imp]
    by_cases running : now < moment
    · obtain ⟨count', counts', windows, time, number, opened, -, -, -⟩ := evaluate_counts enforced now state count moment counts running
      have rest := ih _ now ordered.2 count' moment counts'
      rw [windows] at rest
      constructor
      · simp [number, opened]
      · exact rest
    · have absent : state.key.live now = none := by simp [counts.1, Key.live, running]
      obtain ⟨next, time, number, -, -⟩ := evaluate_opens positive enforced now state absent
      have rest := ih (state.evaluate tier now).1 now ordered.2 1 (now + tier.windowMs) ⟨by rw [next], le_rfl⟩
      have windows : (state.evaluate tier now).1.windows = state.windows + 1 := by rw [next]
      rw [windows] at rest
      have reached := Nat.le_of_not_lt running
      constructor
      · rw [number, time]
        omega
      intro evaluation member
      obtain ⟨_, _, _, -⟩ := rest evaluation member
      have since := time_ge times _ now ordered.2 evaluation member
      omega

include positive enforced in
theorem spaced (last : Nat) (ordered : (last :: times).Pairwise (· ≤ ·)) (timed : state.Timed tier last) :
    (evaluations tier state times).Pairwise (Apart tier) := by
  induction times generalizing state last with
  | nil => exact List.Pairwise.nil
  | cons now times ih =>
    rw [pairwise_cons] at ordered
    obtain ⟨count, moment, counts, -, _, bound⟩ := evaluate_timed positive enforced now last state (ordered.1 now (by simp)) timed
    have rest := ih _ now ordered.2 (.inr ⟨count, moment, counts, bound⟩)
    refine pairwise_cons.mpr ⟨?_, rest⟩
    intro later member
    obtain ⟨_, next, _, opens⟩ := later_windows positive enforced times _ now ordered.2 count moment counts later member
    have time : (state.evaluate tier now).2.time = now := rfl
    have window : (state.evaluate tier now).2.window = (state.evaluate tier now).1.windows := rfl
    refine ⟨by omega, by omega, ?_⟩
    intro first secondly
    have absent : state.key.live now = none := Option.isNone_iff_eq_none.mp first
    obtain ⟨fresh, -, -, -, -⟩ := evaluate_opens positive enforced now state absent
    have whole := counts.1
    rw [fresh] at whole
    simp only [Option.some.injEq, Counter.mk.injEq] at whole
    have past := next (opens secondly)
    omega

end

theorem count_cover {α : Type} {items : List α} {all one two : α → Bool}
    (cover : ∀ item ∈ items, all item = true → one item = true ∨ two item = true) :
    items.countP all ≤ items.countP one + items.countP two := by
  induction items with
  | nil => simp
  | cons item _ ih =>
    have rest := ih fun other member => cover other (mem_cons_of_mem item member)
    have here := cover item mem_cons_self
    simp only [countP_cons]
    by_cases counted : all item = true
    · rcases here counted with first | second
      · rw [if_pos counted, if_pos first]
        omega
      · rw [if_pos counted, if_pos second]
        omega
    · rw [if_neg counted]
      omega

theorem interval_bound (tier : Tier) (items : List Evaluation) (apart : items.Pairwise (Apart tier))
    (budget : ∀ window, items.countP (fun item => item.window = window ∧ item.admitted = true) ≤ tier.max) (start : Nat) :
    items.countP (fun item => (start ≤ item.time ∧ item.time < start + tier.windowMs) ∧ item.admitted = true) ≤ 2 * tier.max := by
  cases found : items.find? (fun item => (start ≤ item.time ∧ item.time < start + tier.windowMs) ∧ item.admitted = true) with
  | none =>
    rw [find?_eq_none] at found
    rw [countP_eq_zero.mpr found]
    exact Nat.zero_le _
  | some first =>
    rw [find?_eq_some_iff_append] at found
    obtain ⟨inside, _, _, split, none⟩ := found
    have cover : ∀ item ∈ items, decide ((start ≤ item.time ∧ item.time < start + tier.windowMs) ∧ item.admitted = true) = true →
          decide (item.window = first.window ∧ item.admitted = true) = true ∨
            decide (item.window = first.window + 1 ∧ item.admitted = true) = true := by
      intro item member counted
      rw [split, mem_append, mem_cons] at member
      simp only [decide_eq_true_eq] at inside counted ⊢
      rcases member with early | rfl | late
      · have skipped := none item early
        simp [counted] at skipped
      · exact .inl ⟨rfl, counted.2⟩
      · rw [split, pairwise_append] at apart
        have next := (pairwise_cons.mp apart.2.1).1 item late
        have near : item.window = first.window ∨ item.window = first.window + 1 := by
          have far := next.2.1
          have order := next.1
          omega
        exact near.imp (fun same => ⟨same, counted.2⟩) (fun same => ⟨same, counted.2⟩)
    calc
      _ ≤ _ := count_cover cover
      _ ≤ tier.max + tier.max := Nat.add_le_add (budget first.window) (budget (first.window + 1))
      _ = 2 * tier.max := by omega

theorem never_over_admits (tier : Tier) (positive : 0 < tier.max) (enforced : 1 ≤ milliseconds tier.window)
    (times : List Nat) (ordered : times.Pairwise (· ≤ ·)) :
    (∀ window, (evaluations tier .initial times).countP
      (fun evaluation => evaluation.window = window ∧ evaluation.admitted = true) ≤ tier.max) ∧
    (∀ start, (evaluations tier .initial times).countP
      (fun evaluation => (start ≤ evaluation.time ∧ evaluation.time < start + tier.windowMs) ∧
        evaluation.admitted = true) ≤ 2 * tier.max) ∧
    ((evaluations tier .initial times).filter Evaluation.opened).Pairwise
      (fun first second => first.time + tier.windowMs ≤ second.time) ∧
    ∀ evaluation ∈ evaluations tier .initial times, ∃ counter moment, evaluation.key = some counter ∧
      counter.expiresAt = some moment ∧ evaluation.time < moment ∧ moment ≤ evaluation.time + tier.windowMs := by
  have since : (0 :: times).Pairwise (· ≤ ·) := pairwise_cons.mpr ⟨fun _ _ => Nat.zero_le _, ordered⟩
  have timed : State.initial.Timed tier 0 := .inl rfl
  have apart := spaced positive enforced times .initial 0 since timed
  have budget (window : Nat) : (evaluations tier .initial times).countP
      (fun evaluation => evaluation.window = window ∧ evaluation.admitted = true) ≤ tier.max := by
    have fresh : State.initial.left tier = 0 := rfl
    apply (budget_kept positive enforced times .initial 0 since timed window).trans
    rw [State.allowance, fresh]
    split_ifs <;> omega
  refine ⟨budget, interval_bound tier _ apart budget, ?_, expiry_kept positive enforced times .initial 0 since timed⟩
  rw [pairwise_filter]
  exact apart.imp fun spaced opened opened' => spaced.2.2 opened opened'

theorem two_per_two_milliseconds :
    0 < (⟨2, 2000000⟩ : Tier).max ∧
      (∀ window, (evaluations ⟨2, 2000000⟩ .initial [0, 1, 1, 1, 2, 3, 4]).countP
        (fun evaluation => evaluation.window = window ∧ evaluation.admitted = true) ≤ 2) :=
  ⟨by decide, (never_over_admits ⟨2, 2000000⟩ (by decide) (by decide) [0, 1, 1, 1, 2, 3, 4] (by decide)).1⟩

end LibCommons.RateLimit
