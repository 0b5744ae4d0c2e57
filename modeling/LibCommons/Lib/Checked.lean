import Mathlib

namespace LibCommons.Checked

open List

variable {ε α β : Type}

theorem bind_ok_iff (first : Except ε α) (next : α → Except ε β) (result : β) :
    (first >>= next) = .ok result ↔ ∃ value, first = .ok value ∧ next value = .ok result := by
  cases first with
  | error | ok => simp [bind, Except.bind]

theorem pure_ok_iff (value result : α) : (pure value : Except ε α) = .ok result ↔ value = result := by
  simp [pure, Except.pure]

theorem map_ok_iff (check : Except ε α) (f : α → β) (result : β) : check.map f = .ok result ↔ ∃ value, check = .ok value ∧ f value = result := by
  cases check with
  | error | ok => simp [Except.map]

-- The guard of a checked sequence: stop with e when the condition holds.
def refuse (condition : Prop) [Decidable condition] (e : ε) : Except ε Unit :=
  if condition then .error e else .ok ()

theorem refuse_ok_iff (condition) [Decidable condition] (e : ε) (value) : refuse condition e = .ok value ↔ ¬ condition := by
  by_cases holds : condition <;> simp [refuse, holds]

theorem foldlM_ok_all (step : α → β → Except ε α) (passed : β → Prop)
    (each : ∀ state item next, step state item = .ok next → passed item) (items : List β) (start finish : α)
    (looped : items.foldlM step start = .ok finish) : ∀ item ∈ items, passed item := by
  induction items generalizing start with
  | nil => simp
  | cons head _ ih =>
    rw [foldlM_cons, bind_ok_iff] at looped
    obtain ⟨next, stepped, looped⟩ := looped
    simpa using ⟨each start head next stepped, ih next looped⟩

section

variable {κ : Type} {blank : κ} {step : κ → β → Except ε κ} {passes : β → Prop} {key : β → κ}

-- A reference is captured from the first item that has a key, and compared with those behind it.
def Captures (blank ref key next : κ) : Prop := (key = blank ∧ next = ref) ∨ (key ≠ blank ∧ (ref = blank ∨ ref = key) ∧ next = key)

theorem foldlM_captures (spec : ∀ ref item next, step ref item = .ok next ↔ passes item ∧ Captures blank ref (key item) next)
    (items : List β) (start last : κ) :
    items.foldlM step start = .ok last ↔ (∀ item ∈ items, passes item ∧ (key item = blank ∨ key item = last)) ∧
      (start = blank ∨ start = last) ∧ (last = start ∨ ∃ item ∈ items, key item = last) := by
  induction items generalizing start with
  | nil =>
    simp only [foldlM_nil, pure_ok_iff, not_mem_nil, false_and, exists_false, or_false]
    exact ⟨fun same => ⟨fun _ => False.elim, .inr same, same.symm⟩, fun kept => kept.2.2.symm⟩
  | cons head _ ih =>
    simp only [foldlM_cons, bind_ok_iff, spec, ih, forall_mem_cons, exists_mem_cons_iff]
    constructor
    · rintro ⟨_, ⟨here, ⟨none, rfl⟩ | ⟨_, started, rfl⟩⟩, rest, kept, found⟩
      · exact ⟨⟨⟨here, .inl none⟩, rest⟩, kept, found.imp_right .inr⟩
      · obtain same : key head = last := kept.resolve_left ‹_›
        exact ⟨⟨⟨here, .inr same⟩, rest⟩, same ▸ started, .inr (.inl same)⟩
    rintro ⟨⟨⟨here, own⟩, rest⟩, started, found⟩
    by_cases none : key head = blank
    · refine ⟨start, ⟨here, .inl ⟨none, rfl⟩⟩, rest, started, ?_⟩
      rcases found with same | same | later
      · exact .inl same
      · exact .inl (started.elim (fun first => same.symm.trans (none.trans first.symm)) Eq.symm)
      · exact .inr later
    · have same := own.resolve_left none
      exact ⟨last, ⟨here, .inr ⟨none, same.symm ▸ started, same.symm⟩⟩, rest, .inr rfl, .inl rfl⟩

theorem foldlM_captures_iff (key : β → κ) (passes : β → Prop)
    (spec : ∀ ref item next, step ref item = .ok next ↔ passes item ∧ Captures blank ref (key item) next) (items : List β) :
    (∃ last, items.foldlM step blank = .ok last) ↔ (∀ item ∈ items, passes item) ∧
      ∀ one ∈ items, ∀ other ∈ items, key one ≠ blank → key other ≠ blank → key one = key other := by
  simp only [foldlM_captures spec]
  constructor
  · rintro ⟨_, each, -⟩
    refine ⟨fun item member => (each item member).1, fun one here other there mine its => ?_⟩
    exact ((each one here).2.resolve_left mine).trans ((each other there).2.resolve_left its).symm
  rintro ⟨each, agree⟩
  by_cases found : ∃ item ∈ items, key item ≠ blank
  · obtain ⟨first, member, filled⟩ := found
    refine ⟨key first, fun item there => ⟨each item there, ?_⟩, .inl trivial, .inr ⟨first, member, rfl⟩⟩
    exact (em (key item = blank)).imp_right fun other => agree item there first member other filled
  · push Not at found
    exact ⟨blank, fun item there => ⟨each item there, .inl (found item there)⟩, .inl trivial, .inl rfl⟩

end

def Refuses (allowed : ε → Prop) (check : Except ε α) : Prop := ∀ e, check = .error e → allowed e

theorem refuses_ok (allowed) (value : α) : Refuses allowed (.ok value : Except ε α) := by
  intro e stopped
  cases stopped

variable {allowed : ε → Prop} {e : ε}

theorem refuses_error (permitted : allowed e) : Refuses allowed (.error e : Except ε α) := by
  intro _ stopped
  cases stopped
  exact permitted

theorem refuses_refuse (condition) [Decidable condition] (permitted : allowed e) : Refuses allowed (refuse condition e) := by
  unfold refuse
  split
  · exact refuses_error permitted
  · exact refuses_ok allowed ()

theorem refuses_bind {first : Except ε α} {next : α → Except ε β} (here : Refuses allowed first)
    (later : ∀ value, Refuses allowed (next value)) : Refuses allowed (first >>= next) := by
  cases first with
  | error e => exact refuses_error (here e rfl)
  | ok value => exact later value

theorem refuses_foldlM {step : α → β → Except ε α} {items : List β} (each : ∀ state, ∀ item ∈ items, Refuses allowed (step state item)) (start : α) :
    Refuses allowed (items.foldlM step start) := by
  induction items generalizing start with
  | nil => exact refuses_ok allowed start
  | cons head _ ih =>
    rw [foldlM_cons]
    exact refuses_bind (each start head (by simp)) (ih fun state item later => each state item (by simp [later]))

end LibCommons.Checked
