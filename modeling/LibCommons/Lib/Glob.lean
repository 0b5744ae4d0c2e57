import LibCommons.Lib.Bytes

namespace LibCommons.Glob

open List

-- Redis patterns: a star, or one byte with a property.
inductive Token where
  | star
  | one (member : UInt8 → Bool)

def range (low high c : UInt8) : Bool := (low ≤ c && c ≤ high) || (high ≤ c && c ≤ low)

-- In a class: whether it is negated, and what it holds so far. A class that is not closed ends with the pattern.
def tokens : Option (Bool × (UInt8 → Bool)) → Bytes → List Token
  | none, [] => []
  | some (negated, member), [] => [.one fun c => member c != negated]
  | none, x :: rest =>
    if x = 42 then .star :: tokens none rest
    else if x = 63 then .one (fun _ => true) :: tokens none rest
    else if x = 91 then
      match rest with
      | [] => tokens (some (false, fun _ => false)) []
      | y :: rest => if y = 94 then tokens (some (true, fun _ => false)) rest else tokens (some (false, fun _ => false)) (y :: rest)
    else if x = 92 then
      match rest with
      | [] => [.one (· == x)]
      | y :: rest => .one (· == y) :: tokens none rest
    else .one (· == x) :: tokens none rest
  | some (negated, member), x :: rest =>
    match rest with
    | y :: rest' =>
      if x = 92 then tokens (some (negated, fun c => member c || c == y)) rest'
      else if x = 93 then .one (fun c => member c != negated) :: tokens none (y :: rest')
      else
        match rest' with
        | z :: rest'' =>
          if y = 45 then tokens (some (negated, fun c => member c || range x z c)) rest''
          else tokens (some (negated, fun c => member c || c == x)) (y :: z :: rest'')
        | [] => tokens (some (negated, fun c => member c || c == x)) [y]
    | [] => if x = 93 then [.one fun c => member c != negated] else tokens (some (negated, fun c => member c || c == x)) []

def accepts : List Token → Bytes → Bool
  | [], text => text.isEmpty
  | .star :: rest, text => (List.range (text.length + 1)).any fun n => accepts rest (text.drop n)
  | .one _ :: _, [] => false
  | .one member :: rest, c :: text => member c && accepts rest text

def Plain (x : UInt8) : Prop := x ≠ 42 ∧ x ≠ 63 ∧ x ≠ 91 ∧ x ≠ 92

def Simple (x : UInt8) : Prop := x ≠ 91 ∧ x ≠ 92

variable {x : UInt8} {front rest tail text back : Bytes}

theorem tokens_star (rest : Bytes) : tokens none (42 :: rest) = .star :: tokens none rest := by
  rw [tokens.eq_def]
  simp

theorem tokens_any (rest : Bytes) : tokens none (63 :: rest) = .one (fun _ => true) :: tokens none rest := by
  rw [tokens.eq_def]
  simp

theorem tokens_plain (plain : Plain x) (rest : Bytes) : tokens none (x :: rest) = .one (· == x) :: tokens none rest := by
  obtain ⟨star, any, opening, escape⟩ := plain
  rw [tokens.eq_def]
  simp [star, any, opening, escape]

theorem accepts_self (simple : ∀ x ∈ front, Simple x) (matched : accepts (tokens none rest) back = true) :
    accepts (tokens none (front ++ rest)) (front ++ back) = true := by
  induction front with
  | nil => exact matched
  | cons x front ih =>
    obtain ⟨first, others⟩ := forall_mem_cons.mp simple
    have later := ih others
    simp only [cons_append]
    by_cases star : x = 42
    · rw [star, tokens_star, accepts, List.any_eq_true]
      exact ⟨1, by simp, later⟩
    by_cases any : x = 63
    · rw [any, tokens_any, accepts, later]
      rfl
    · rw [tokens_plain ⟨star, any, first⟩, accepts, later]
      simp

theorem accepts_cons (simple : Simple x) (matched : accepts (tokens none (x :: rest)) text = true) :
    ∃ taken back, text = taken ++ back ∧ accepts (tokens none rest) back = true ∧ (x ≠ 42 → x ≠ 63 → taken = [x]) := by
  by_cases star : x = 42
  · rw [star, tokens_star, accepts, List.any_eq_true] at matched
    obtain ⟨n, -, matched⟩ := matched
    exact ⟨text.take n, text.drop n, (take_append_drop n text).symm, matched, fun other => absurd star other⟩
  cases text with
  | nil =>
    by_cases any : x = 63
    · rw [any, tokens_any] at matched
      cases matched
    · rw [tokens_plain ⟨star, any, simple⟩] at matched
      cases matched
  | cons c text =>
    by_cases any : x = 63
    · rw [any, tokens_any, accepts] at matched
      exact ⟨[c], text, rfl, matched, fun _ other => absurd any other⟩
    · rw [tokens_plain ⟨star, any, simple⟩, accepts, Bool.and_eq_true] at matched
      exact ⟨[c], text, rfl, matched.2, fun _ _ => by rw [eq_of_beq matched.1]⟩

theorem accepts_plain (plain : ∀ x ∈ front, Plain x) (matched : accepts (tokens none (front ++ rest)) text = true) :
    ∃ back, text = front ++ back ∧ accepts (tokens none rest) back = true := by
  induction front generalizing text with
  | nil => exact ⟨text, rfl, matched⟩
  | cons x front ih =>
    obtain ⟨⟨star, any, simple⟩, others⟩ := forall_mem_cons.mp plain
    obtain ⟨taken, back, rfl, matched, own⟩ := accepts_cons simple matched
    obtain ⟨last, rfl, done⟩ := ih others matched
    exact ⟨last, by rw [own star any]; rfl, done⟩

theorem accepts_count (simple : ∀ x ∈ rest, Simple x) (matched : accepts (tokens none rest) text = true)
    (star : x ≠ 42) (any : x ≠ 63) : rest.count x ≤ text.count x := by
  induction rest generalizing text with
  | nil => exact Nat.zero_le _
  | cons y rest ih =>
    obtain ⟨first, others⟩ := forall_mem_cons.mp simple
    obtain ⟨taken, back, rfl, matched, own⟩ := accepts_cons first matched
    have later := ih others matched
    rw [count_append]
    by_cases same : y = x
    · subst same
      rw [own star any, count_cons_self, count_singleton_self]
      omega
    · rw [count_cons_of_ne same]
      omega

theorem accepts_tail (simple : ∀ x ∈ front, Simple x) (plain : ∀ x ∈ tail, Plain x)
    (matched : accepts (tokens none (front ++ tail)) text = true) : tail <:+ text := by
  induction front generalizing text with
  | nil =>
    rw [nil_append, ← append_nil tail] at matched
    obtain ⟨back, rfl, done⟩ := accepts_plain plain matched
    rw [List.isEmpty_iff.mp done, append_nil]
  | cons x front ih =>
    obtain ⟨first, others⟩ := forall_mem_cons.mp simple
    obtain ⟨taken, back, rfl, matched, -⟩ := accepts_cons first matched
    exact (ih others matched).trans (suffix_append taken back)

end LibCommons.Glob
