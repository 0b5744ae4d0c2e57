import LibCommons.Lib.Split
import LibCommons.Outbox.Event

namespace LibCommons.Outbox

open List Option Go

def hasCause (existing cause : String) : Bool := (existing.toList.splitOn '\n').contains cause.toList

def contains (whole part : String) : Bool := part.toList <:+: whole.toList

def appendErrorCause (existing cause : String) : String :=
  let cause := normalizeCause cause
  if cause = "" then existing
  else if trimSpace existing = "" then boundErrorCause cause
  else if hasCause existing cause then existing
  else if contains existing lastErrorTruncationMarker then existing
  else if existing.length + 1 + cause.length ≤ lastErrorCauseBudget then existing ++ "\n" ++ cause
  else truncateToRuneBudget existing lastErrorCauseBudget ++ lastErrorTruncationMarker

def Solid (text : String) : Prop := ∃ first rest, text.toList = first :: rest ∧ isSpace first = false

section

variable (text : String)

theorem trim_list : (trimSpace text).toList = (text.toList.dropWhile isSpace).rdropWhile isSpace := by
  simp [trimSpace, List.rdropWhile]

theorem rdrop_solid {first} (rest) (solid : isSpace first = false) : ∃ kept, (first :: rest).rdropWhile isSpace = first :: kept := by
  obtain ⟨_, whole⟩ := rdropWhile_prefix isSpace (first :: rest)
  cases kept : (first :: rest).rdropWhile isSpace with
  | nil =>
    have blank := rdropWhile_eq_nil_iff.mp kept first (by simp)
    rw [solid] at blank
    cases blank
  | cons _ tail =>
    rw [kept] at whole
    simp only [cons_append, List.cons.injEq] at whole
    exact ⟨tail, by rw [whole.1]⟩

theorem drop_solid (text : List Char) : text.dropWhile isSpace = [] ∨
      ∃ first rest, text.dropWhile isSpace = first :: rest ∧ isSpace first = false := by
  cases kept : text.dropWhile isSpace with
  | nil => exact .inl rfl
  | cons first rest =>
    refine .inr ⟨first, rest, rfl, ?_⟩
    have stopped := head_dropWhile_not (l := text) isSpace (by simp [kept])
    simpa [kept] using stopped

theorem trim_empty_or_solid : trimSpace text = "" ∨ Solid (trimSpace text) := by
  rcases drop_solid text.toList with none | ⟨first, rest, found, solid⟩
  · left
    apply String.toList_injective
    simp [trim_list, none]
  · right
    obtain ⟨kept, trimmed⟩ := rdrop_solid rest solid
    exact ⟨first, kept, by rw [trim_list, found, trimmed], solid⟩

theorem solid_not_blank (solid : Solid text) : text ≠ "" ∧ trimSpace text ≠ "" ∧ blank text = false := by
  obtain ⟨first, rest, found, solid⟩ := solid
  refine ⟨?_, ?_, ?_⟩
  · rintro rfl
    simp at found
  · intro empty
    have listed := congrArg String.toList empty
    obtain ⟨_, trimmed⟩ := rdrop_solid rest solid
    simp [trim_list, found, solid, trimmed] at listed
  · have other : first ≠ ' ' := by
      rintro rfl
      revert solid
      decide
    simp [blank, found, other]

theorem solid_append (more) (solid : Solid text) : Solid (text ++ more) := by
  obtain ⟨first, rest, found, solid⟩ := solid
  exact ⟨first, rest ++ more.toList, by simp [found], solid⟩

theorem solid_truncate (budget : Nat) (positive : 0 < budget) (solid : Solid text) : Solid (truncateToRuneBudget text budget) := by
  obtain ⟨first, rest, found, solid⟩ := solid
  refine ⟨first, rest.take (budget - 1), ?_, solid⟩
  simp [truncateToRuneBudget, found, take_cons positive]

end

section

theorem fold_free (text) : '\n' ∉ foldNewlines text ∧ '\r' ∉ foldNewlines text := by
  fun_induction foldNewlines text <;> simp_all [eq_comm]

theorem fold_same {text} (noNewline : '\n' ∉ text) (noReturn : '\r' ∉ text) : foldNewlines text = text := by
  fun_induction foldNewlines text <;> simp_all

theorem trim_mem {text} {c} (member : c ∈ (trimSpace text).toList) : c ∈ text.toList := by
  rw [trim_list] at member
  exact (dropWhile_suffix isSpace).subset (( rdropWhile_prefix isSpace _).subset member)

variable (cause : String)

theorem normalize_free : '\n' ∉ (normalizeCause cause).toList ∧ '\r' ∉ (normalizeCause cause).toList := by
  have free := fold_free cause.toList
  constructor
  · intro member
    exact free.1 (by simpa using trim_mem member)
  · intro member
    exact free.2 (by simpa using trim_mem member)

theorem normalize_idempotent : normalizeCause (normalizeCause cause) = normalizeCause cause := by
  obtain ⟨noNewline, noReturn⟩ := normalize_free cause
  have same : normalizeCause (normalizeCause cause) = trimSpace (normalizeCause cause) := by
    rw [normalizeCause.eq_1 (normalizeCause cause), fold_same noNewline noReturn, String.ofList_toList]
  rw [same]
  exact trim_idempotent _

theorem bound_normalize : boundErrorCause (normalizeCause cause) = boundErrorCause cause := by
  simp only [boundErrorCause, normalize_idempotent]

end

section

def Ends (text : String) : Prop := ∃ front last, text.toList = front ++ [last] ∧ isSpace last = false

theorem ends_append (text) {more} (ends : Ends more) : Ends (text ++ more) := by
  obtain ⟨front, last, found, solid⟩ := ends
  exact ⟨text.toList ++ front, last, by simp [found], solid⟩

variable {text : String}

theorem trimmed_of_ends (solid : Solid text) (ends : Ends text) : trimSpace text = text := by
  obtain ⟨_, _, found, firstSolid⟩ := solid
  obtain ⟨front, last, split, lastSolid⟩ := ends
  apply String.toList_injective
  rw [trim_list]
  have front : text.toList.dropWhile isSpace = text.toList := by
    rw [found]
    exact dropWhile_cons_of_neg (by simp [firstSolid])
  rw [front, split]
  exact rdropWhile_concat_neg isSpace _ last (by simp [lastSolid])

theorem trimmed_ends (trimmed : trimSpace text = text) : text = "" ∨ (Solid text ∧ Ends text) := by
  rcases trim_empty_or_solid text with empty | solid
  · exact .inl (trimmed ▸ empty)
  rw [trimmed] at solid
  refine .inr ⟨solid, ?_⟩
  obtain ⟨first, rest, found, -⟩ := solid
  have whole : text.toList = (text.toList.dropWhile isSpace).rdropWhile isSpace := by
    rw [← trim_list, trimmed]
  have nonempty : (text.toList.dropWhile isSpace).rdropWhile isSpace ≠ [] := by
    rw [← whole, found]
    exact cons_ne_nil first rest
  have solid := rdropWhile_last_not isSpace (text.toList.dropWhile isSpace) nonempty
  exact ⟨_, _, whole.trans (dropLast_append_getLast nonempty).symm, by simpa using solid⟩

theorem normalize_trimmed (cause) : trimSpace (normalizeCause cause) = normalizeCause cause := trim_idempotent _

theorem marker_ends (text) : Ends (text ++ lastErrorTruncationMarker) :=
  ends_append text ⟨"\n... (later causes truncated".toList, ')', by decide, by decide⟩

theorem truncated_trimmed (solid : Solid text) : trimSpace (truncateToRuneBudget text lastErrorCauseBudget ++ lastErrorTruncationMarker) =
      truncateToRuneBudget text lastErrorCauseBudget ++ lastErrorTruncationMarker :=
  trimmed_of_ends (solid_append _ _ (solid_truncate text lastErrorCauseBudget (by decide) solid)) (marker_ends _)

end

def Settled (text : String) : Prop :=
  text = "" ∨ (Solid text ∧ (text.length ≤ lastErrorCauseBudget ∨ contains text lastErrorTruncationMarker = true))

section

theorem contains_truncated (text) (budget : Nat) :
    contains (truncateToRuneBudget text budget ++ lastErrorTruncationMarker) lastErrorTruncationMarker = true := by
  simp only [contains, decide_eq_true_eq, String.toList_append]
  exact (suffix_append _ _).isInfix

theorem truncated_settled {text} (solid : Solid text) : Settled (truncateToRuneBudget text lastErrorCauseBudget ++ lastErrorTruncationMarker) := by
  have kept := solid_truncate text lastErrorCauseBudget (by decide) solid
  exact .inr ⟨solid_append _ _ kept, .inr (contains_truncated text lastErrorCauseBudget)⟩

variable {cause : String}

theorem bound_short (short : (normalizeCause cause).length ≤ lastErrorCauseBudget) : boundErrorCause cause = normalizeCause cause := by
  simp only [boundErrorCause, short, if_true]

theorem bound_long (long : ¬ (normalizeCause cause).length ≤ lastErrorCauseBudget) : boundErrorCause cause =
      truncateToRuneBudget (normalizeCause cause) lastErrorCauseBudget ++ lastErrorTruncationMarker := by
  simp only [boundErrorCause, long, if_false]

theorem bound_empty (cause) (empty : normalizeCause cause = "") : boundErrorCause cause = "" := by
  rw [bound_short (by simp [empty]), empty]

theorem bound_settled (cause) : Settled (boundErrorCause cause) := by
  unfold boundErrorCause
  dsimp only
  rcases trim_empty_or_solid (String.ofList (foldNewlines cause.toList)) with empty | solid
  · have none : normalizeCause cause = "" := empty
    simp [none, Settled]
  · split
    · next fits => exact .inr ⟨solid, .inl fits⟩
    · exact truncated_settled solid

theorem bound_trimmed (cause) : trimSpace (boundErrorCause cause) = boundErrorCause cause := by
  by_cases short : (normalizeCause cause).length ≤ lastErrorCauseBudget
  · rw [bound_short short, normalize_trimmed]
  rw [bound_long short]
  apply truncated_trimmed
  rcases trimmed_ends (normalize_trimmed cause) with empty | ⟨solid, -⟩
  · rw [empty] at short
    exact absurd (by decide) short
  · exact solid

variable {existing : String}

theorem append_trimmed (cause) (trimmed : trimSpace existing = existing) :
    trimSpace (appendErrorCause existing cause) = appendErrorCause existing cause := by
  unfold appendErrorCause
  dsimp only
  split
  · exact trimmed
  split
  · exact bound_trimmed _
  rename_i nonempty notBlank
  have solid : Solid existing := by
    rcases trimmed_ends trimmed with rfl | ⟨solid, -⟩
    · exact absurd (by decide) notBlank
    · exact solid
  split
  · exact trimmed
  split
  · exact trimmed
  split
  · rcases trimmed_ends (normalize_trimmed cause) with empty | ⟨-, ends⟩
    · exact absurd empty nonempty
    · rw [String.append_assoc]
      exact trimmed_of_ends (solid_append _ _ solid) (ends_append _ (ends_append _ ends))
  · exact truncated_trimmed solid

theorem append_settled (cause) (settled : Settled existing) : Settled (appendErrorCause existing cause) := by
  unfold appendErrorCause
  dsimp only
  rcases settled with rfl | ⟨solid, room⟩
  · split
    · exact .inl rfl
    · rw [if_pos (by decide)]
      exact bound_settled _
  have same : Settled existing := .inr ⟨solid, room⟩
  rw [if_neg (solid_not_blank existing solid).2.1]
  split
  · exact same
  split
  · exact same
  split
  · exact same
  split
  · next fits =>
    refine .inr ⟨solid_append _ _ (solid_append _ _ solid), .inl ?_⟩
    simp only [String.length_append, show ("\n" : String).length = 1 from rfl]
    omega
  · exact truncated_settled solid

theorem position_eq_has_cause (existing) (free : '\n' ∉ cause.toList) :
    positionIn ("\n" ++ cause ++ "\n") ("\n" ++ existing ++ "\n") = hasCause existing cause := by
  have wrapped := Split.mem_split_iff '\n' cause.toList existing.toList free
  simp only [positionIn, hasCause, String.toList_append, show ("\n" : String).toList = ['\n'] from rfl,
    cons_append, nil_append, contains_eq_mem, wrapped]

theorem position_eq_contains (whole part) : positionIn part whole = contains whole part := rfl

theorem position_inside (found : positionIn ("\n" ++ cause ++ "\n") ("\n" ++ existing ++ "\n") = true) : cause.toList <:+: existing.toList := by
  apply Split.wrapped_inside '\n'
  simpa [positionIn] using found

theorem has_cause_short (free : '\n' ∉ cause.toList) (found : hasCause existing cause = true) : cause.length ≤ existing.length := by
  rw [← position_eq_has_cause existing free] at found
  simpa only [String.length_toList] using (position_inside found).length_le

theorem accumulate_short (existing message) (solid : Solid existing) (nonempty : normalizeCause message ≠ "")
    (short : (normalizeCause message).length ≤ lastErrorCauseBudget) (emptyBranch) :
    accumulateLastError (some existing) (boundErrorCause message) emptyBranch = some (appendErrorCause existing message) := by
  have bounded := bound_short short
  obtain ⟨_, notTrimmed, notBlank⟩ := solid_not_blank existing solid
  have same := position_eq_has_cause existing (normalize_free message).1
  simp only [accumulateLastError, appendErrorCause, bounded, notBlank, notTrimmed, nonempty, same,
    position_eq_contains existing lastErrorTruncationMarker, Bool.false_eq_true, if_false, decide_false, Bool.and_false]
  split
  · rfl
  · split
    · rfl
    · split <;> rfl

theorem accumulate_long (existing message) (solid : Solid existing)
    (room : existing.length ≤ lastErrorCauseBudget ∨ contains existing lastErrorTruncationMarker = true)
    (long : lastErrorCauseBudget < (normalizeCause message).length) (emptyBranch) :
    accumulateLastError (some existing) (boundErrorCause message) emptyBranch = some (appendErrorCause existing message) := by
  have bounded := bound_long (not_le.mpr long)
  obtain ⟨_, notTrimmed, notBlank⟩ := solid_not_blank existing solid
  have nonempty : normalizeCause message ≠ "" := by
    intro empty
    simp [empty] at long
  have marked := contains_truncated (normalizeCause message) lastErrorCauseBudget
  rw [← bounded] at marked
  simp only [contains, decide_eq_true_eq] at marked
  have filled : boundErrorCause message ≠ "" := by
    intro empty
    rw [empty] at marked
    exact absurd marked (by decide)
  have tooLong : lastErrorCauseBudget < (boundErrorCause message).length := by
    rw [bounded]
    have cut : (truncateToRuneBudget (normalizeCause message) lastErrorCauseBudget).length = lastErrorCauseBudget := by
      simp only [truncateToRuneBudget, String.length_ofList, length_take, String.length_toList]
      omega
    have positive : 0 < lastErrorTruncationMarker.length := by decide
    rw [String.length_append, cut]
    omega
  simp only [accumulateLastError, appendErrorCause, notBlank, notTrimmed, nonempty, filled,
    position_eq_contains existing lastErrorTruncationMarker, Bool.false_eq_true, if_false, decide_false, Bool.and_false]
  by_cases full : contains existing lastErrorTruncationMarker = true
  · simp [full]
  have fits : existing.length ≤ lastErrorCauseBudget := room.resolve_right full
  have unlisted : positionIn ("\n" ++ boundErrorCause message ++ "\n") ("\n" ++ existing ++ "\n") = false := by
    by_contra listed
    exact full (decide_eq_true (marked.trans (position_inside (by simpa using listed))))
  have unknown : hasCause existing (normalizeCause message) = false := by
    by_contra listed
    have := has_cause_short (normalize_free message).1 (by simpa using listed)
    omega
  have noRoom : ¬ existing.length + 1 + (boundErrorCause message).length ≤ lastErrorCauseBudget := by omega
  have noRoom' : ¬ existing.length + 1 + (normalizeCause message).length ≤ lastErrorCauseBudget := by omega
  simp only [unlisted, unknown, noRoom, noRoom', full, Bool.false_eq_true, if_false]

theorem accumulate_eq_append {existing} (message) (settled : Settled (existing.getD "")) :
    (accumulateLastError existing (boundErrorCause message) true).getD "" = appendErrorCause (existing.getD "") message := by
  have fromEmpty : boundErrorCause message = appendErrorCause "" message := by
    unfold appendErrorCause
    dsimp only
    split
    · next empty => exact bound_empty message empty
    · rw [if_pos (by decide), bound_normalize]
  cases existing with
  | none => simpa only [accumulateLastError, getD_some, getD_none] using fromEmpty
  | some existing =>
    rcases settled with empty | ⟨solid, room⟩
    · obtain rfl : existing = "" := empty
      have blank : blank "" = true := by decide
      simpa only [accumulateLastError, blank, if_true, getD_some] using fromEmpty
    by_cases none : normalizeCause message = ""
    · have bounded := bound_empty message none
      simp [accumulateLastError, appendErrorCause, bounded, none, (solid_not_blank existing solid).2.2]
    · by_cases short : (normalizeCause message).length ≤ lastErrorCauseBudget
      · rw [accumulate_short existing message solid none short, getD_some, getD_some]
      · rw [accumulate_long existing message solid room (not_le.mp short), getD_some, getD_some]

theorem stuck_bounded : boundErrorCause stuckInProcessingCause = stuckInProcessingCause := by decide

theorem stuck_eq_append {existing} (settled : Settled (existing.getD "")) :
    (accumulateLastError existing stuckInProcessingCause false).getD "" = appendErrorCause (existing.getD "") stuckInProcessingCause := by
  rw [← accumulate_eq_append stuckInProcessingCause settled, stuck_bounded]
  have nonempty : stuckInProcessingCause ≠ "" := by decide
  cases existing with
  | none => rfl
  | some => simp only [accumulateLastError, nonempty, decide_false, Bool.and_false]

end

-- The values the column takes under MarkFailed and the stuck invalidation of either repository.
inductive Accumulated (sanitize : String → String) : Option String → Prop where
  | null : Accumulated sanitize none
  | empty : Accumulated sanitize (some "")
  | markFailed (existing : Option String) (errMsg : String) (earlier : Accumulated sanitize existing) :
      Accumulated sanitize (accumulateLastError existing (boundErrorCause (sanitize errMsg)) true)
  | stuckInvalid (existing : Option String) (earlier : Accumulated sanitize existing) :
      Accumulated sanitize (accumulateLastError existing stuckInProcessingCause false)
  | markFailedMongo (existing : Option String) (errMsg : String) (earlier : Accumulated sanitize existing) :
      Accumulated sanitize (some (appendErrorCause (existing.getD "") (sanitize errMsg)))
  | stuckInvalidMongo (existing : Option String) (earlier : Accumulated sanitize existing) :
      Accumulated sanitize (some (appendErrorCause (existing.getD "") stuckInProcessingCause))

theorem accumulated_settled {sanitize} {existing} (reached : Accumulated sanitize existing) : Settled (existing.getD "") := by
  induction reached with
  | null | empty => exact .inl rfl
  | markFailed _ _ _ ih =>
    rw [accumulate_eq_append _ ih]
    exact append_settled _ ih
  | stuckInvalid _ _ ih =>
    rw [stuck_eq_append ih]
    exact append_settled _ ih
  | markFailedMongo existing errMsg _ ih | stuckInvalidMongo existing _ ih =>
    rw [getD_some]
    exact append_settled _ ih

theorem accumulation_rules_agree (sanitize : String → String) (existing : Option String)
    (reached : Accumulated sanitize existing) (errMsg : String) :
    (accumulateLastError existing (boundErrorCause (sanitize errMsg)) true).getD "" =
      appendErrorCause (existing.getD "") (sanitize errMsg) :=
  accumulate_eq_append (sanitize errMsg) (accumulated_settled reached)

theorem sample_accumulation :
    (accumulateLastError (some "broker down") (boundErrorCause "connection\r\nrefused ") true).getD "" =
        "broker down\nconnection refused" ∧
      appendErrorCause "broker down" "connection\r\nrefused " = "broker down\nconnection refused" := by
  have first : accumulateLastError none (boundErrorCause " broker down") true = some "broker down" := by decide
  have reached : Accumulated id (some "broker down") := first ▸ .markFailed none " broker down" .null
  have agree := accumulation_rules_agree id (some "broker down") reached "connection\r\nrefused "
  have stored : appendErrorCause "broker down" "connection\r\nrefused " = "broker down\nconnection refused" := by decide
  exact ⟨agree.trans stored, stored⟩

end LibCommons.Outbox
