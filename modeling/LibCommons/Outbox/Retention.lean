import Mathlib

namespace LibCommons.Outbox.Retention

open List

-- Instants are nanoseconds from the zero time; Sub keeps to the range of a Duration.
def sub (now last : Int) : Int := max (-2 ^ 63) (min (2 ^ 63 - 1) (now - last))

abbrev Interval := { ns : Int // 0 < ns ∧ ns < 2 ^ 63 }

structure Sweeps (K : Type) where
  sweptAt : K → Option Int
  prunedAt : Int

variable {K : Type} [DecidableEq K] (interval : Interval)

def prune (now : Int) (sweeps : Sweeps K) : Sweeps K :=
  if sweeps.prunedAt = 0 ∨ interval.val ≤ sub now sweeps.prunedAt then
    ⟨fun swept => (sweeps.sweptAt swept).filter fun last => sub now last < interval, now⟩
  else sweeps

def claimRetentionSweep (scope : K) (now : Int) (sweeps : Sweeps K) : Bool × Sweeps K :=
  if ∃ last ∈ sweeps.sweptAt scope, sub now last < interval then (false, sweeps)
  else
    let pruned := prune interval now sweeps
    (true, { pruned with sweptAt := Function.update pruned.sweptAt scope (some now) })

-- The calls made so far leave the memory and the grants.
def recorded (history : Sweeps K × List (K × Int)) (call : K × Int) : Sweeps K × List (K × Int) :=
  let result := claimRetentionSweep interval call.1 call.2 history.1
  (result.2, if result.1 then history.2 ++ [call] else history.2)

def history (calls : List (K × Int)) : Sweeps K × List (K × Int) := calls.foldl (recorded interval) (⟨fun _ => none, 0⟩, [])

variable {interval}

theorem sub_lt (now last : Int) : sub now last < interval ↔ now - last < interval := by
  obtain ⟨_, _, _⟩ := interval
  simp only [sub]
  omega

-- What the memory and the grants say of each other, for calls up to the latest.
structure Faithful (interval : Interval) (latest : Int) (history : Sweeps K × List (K × Int)) : Prop where
  pruned : history.1.prunedAt = 0 ∨ history.1.prunedAt ≤ latest
  held : ∀ scope last, history.1.sweptAt scope = some last → (scope, last) ∈ history.2 ∧ history.1.prunedAt - last < interval
  granted : ∀ scope last, (scope, last) ∈ history.2 → last ≤ latest ∧
    ((∃ later, history.1.sweptAt scope = some later ∧ last ≤ later) ∨ interval.val ≤ latest - last)
  newest : ∀ grant, history.2.getLast? = some grant → grant.2 - history.1.prunedAt < interval

variable {latest now : Int} {history : Sweeps K × List (K × Int)} {scope : K}

omit [DecidableEq K] in
theorem later_faithful (faithful : Faithful interval latest history) (onward : latest ≤ now) : Faithful interval now history := by
  refine { faithful with pruned := faithful.pruned.imp_right (·.trans onward), granted := ?_ }
  intro scope last member
  obtain ⟨before, kept⟩ := faithful.granted scope last member
  exact ⟨before.trans onward, kept.imp_right fun aged => by omega⟩

theorem granted_iff (faithful : Faithful interval now history) (scope : K) :
    (claimRetentionSweep interval scope now history.1).1 = true ↔ ∀ last, (scope, last) ∈ history.2 → interval.val ≤ now - last := by
  unfold claimRetentionSweep
  split
  · rename_i recent
    obtain ⟨last, held, young⟩ := recent
    refine iff_of_false (by simp) ?_
    intro aged
    have old := aged last (faithful.held scope last held).1
    have short := (sub_lt now last).mp young
    omega
  · rename_i due
    refine iff_of_true rfl ?_
    intro last member
    rcases (faithful.granted scope last member).2 with ⟨later, held, _⟩ | aged
    · have old : ¬ now - later < interval := fun young => due ⟨later, held, (sub_lt now later).mpr young⟩
      omega
    · exact aged

omit [DecidableEq K] in
theorem prune_faithful (faithful : Faithful interval now history) :
    Faithful interval now (prune interval now history.1, history.2) ∧ now - (prune interval now history.1).prunedAt < interval ∧
      (prune interval now history.1).prunedAt ≤ now := by
  have positive := interval.2.1
  unfold prune
  split
  · refine ⟨⟨.inr le_rfl, ?_, ?_, ?_⟩, by simpa using positive, le_rfl⟩
    · intro scope last held
      simp only [Option.filter_eq_some_iff, decide_eq_true_eq] at held
      exact ⟨(faithful.held scope last held.1).1, (sub_lt now last).mp held.2⟩
    · intro scope last member
      obtain ⟨before, kept⟩ := faithful.granted scope last member
      refine ⟨before, ?_⟩
      by_cases young : now - last < interval
      · obtain ⟨later, held, order⟩ := kept.resolve_right (by omega)
        have recent : sub now later < interval := (sub_lt now later).mpr (by omega)
        exact .inl ⟨later, by simp [held, recent], order⟩
      · exact .inr (by omega)
    · intro grant last
      have before := (faithful.granted grant.1 grant.2 (mem_of_getLast? last)).1
      dsimp only
      omega
  · rename_i fresh
    rw [not_or, not_le, sub_lt] at fresh
    exact ⟨faithful, fresh.2, faithful.pruned.resolve_left fresh.1⟩

theorem recorded_faithful (faithful : Faithful interval latest history) (onward : latest ≤ now) (scope : K) :
    Faithful interval now (recorded interval history (scope, now)) := by
  have current := later_faithful faithful onward
  unfold recorded claimRetentionSweep
  dsimp only
  split
  · exact current
  obtain ⟨pruned, recent, _⟩ := prune_faithful current
  have positive := interval.2.1
  refine ⟨pruned.pruned, ?_, ?_, ?_⟩
  · intro other last held
    by_cases same : other = scope
    · subst same
      obtain rfl : now = last := by simpa using held
      exact ⟨by simp, by dsimp only; omega⟩
    · have before := pruned.held other last (by simpa [same] using held)
      exact ⟨by simp [before.1], before.2⟩
  · intro other last member
    have before : last ≤ now := by
      rcases mem_append.mp member with old | _
      · exact (pruned.granted other last old).1
      · simp_all
    refine ⟨before, ?_⟩
    by_cases same : other = scope
    · exact .inl ⟨now, by simp [same], before⟩
    · have old : (other, last) ∈ history.2 := by simpa [same] using member
      simpa [same] using (pruned.granted other last old).2
  · intro grant last
    obtain rfl : (scope, now) = grant := by simpa using last
    exact recent

theorem history_faithful (interval : Interval) {calls : List (K × Int)}
    (forward : calls.Pairwise fun one next => one.2 ≤ next.2) (before : ∀ call ∈ calls, call.2 ≤ latest) :
    Faithful interval latest (Retention.history interval calls) := by
  induction calls using List.reverseRecOn generalizing latest with
  | nil => exact ⟨.inl rfl, (by rintro _ _ ⟨⟩), (by rintro _ _ ⟨⟩), (by rintro _ ⟨⟩)⟩
  | append_singleton calls call ih =>
    rw [pairwise_append] at forward
    have earlier := ih forward.1 fun one member => forward.2.2 one member call (mem_singleton_self call)
    have next := recorded_faithful earlier le_rfl call.1
    rw [Retention.history, foldl_concat]
    exact later_faithful next (before call (by simp))

theorem sweeps_limited_exactly (interval : Interval) (calls : List (K × Int)) (forward : calls.Pairwise fun one next => one.2 ≤ next.2) :
    (∀ earlier scope now later, calls = earlier ++ (scope, now) :: later →
      ((claimRetentionSweep interval scope now (Retention.history interval earlier).1).1 = true ↔
        ∀ last, (scope, last) ∈ (Retention.history interval earlier).2 → interval.val ≤ now - last)) ∧
    (∀ scope last grant, (Retention.history interval calls).1.sweptAt scope = some last →
      (Retention.history interval calls).2.getLast? = some grant → grant.2 - last < 2 * interval) := by
  refine ⟨?_, ?_⟩
  · rintro _ scope now _ rfl
    rw [pairwise_append] at forward
    refine granted_iff (history_faithful interval forward.1 ?_) scope
    intro call member
    exact forward.2.2 call member (scope, now) (mem_cons_self ..)
  · intro scope last grant held newest
    obtain ⟨_, before⟩ := (calls.map Prod.snd).toFinset.exists_le
    have faithful := history_faithful interval forward fun call member => before call.2 (by simpa using ⟨call.1, member⟩)
    have kept := (faithful.held scope last held).2
    have recent := faithful.newest grant newest
    omega

theorem two_scopes_limited :
    ([("a", 1), ("b", 4), ("a", 11)] : List (String × Int)).Pairwise (fun one next => one.2 ≤ next.2) ∧
      ((claimRetentionSweep ⟨10, by decide⟩ "a" 11 (Retention.history ⟨10, by decide⟩ [("a", 1), ("b", 4)]).1).1 = true ↔
        ∀ last, ("a", last) ∈ (Retention.history ⟨10, by decide⟩ [("a", 1), ("b", 4)]).2 → 10 ≤ 11 - last) :=
  ⟨by decide, (sweeps_limited_exactly ⟨10, by decide⟩ [("a", 1), ("b", 4), ("a", 11)] (by decide)).1 [("a", 1), ("b", 4)] "a" 11 []
    rfl⟩

end LibCommons.Outbox.Retention
