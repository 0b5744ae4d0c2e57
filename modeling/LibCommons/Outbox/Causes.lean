import LibCommons.Outbox.LastError

namespace LibCommons.Outbox

open List

-- The distinct causes of a sequence that are not empty, in the order they first occur in.
def distinctCauses (causes : List String) : List String := ((causes.map normalizeCause).filter (· ≠ "")).eraseDups

def joinCauses (records : List String) : String := "\n".intercalate records

def foldCauses (causes : List String) : String := causes.foldl appendErrorCause ""

def Marked (text : String) : Prop := contains text lastErrorTruncationMarker = true

section

variable {causes records : List String} {cause record : String}

theorem distinct_snoc (causes cause) : distinctCauses (causes ++ [cause]) =
      if normalizeCause cause = "" ∨ normalizeCause cause ∈ distinctCauses causes then distinctCauses causes
      else distinctCauses causes ++ [normalizeCause cause] := by
  simp only [distinctCauses, map_append, map_singleton, filter_append, eraseDups_append, mem_eraseDups]
  by_cases empty : normalizeCause cause = ""
  · simp [empty]
  rw [filter_singleton, decide_eq_true empty, cond_true]
  by_cases known : normalizeCause cause ∈ (causes.map normalizeCause).filter (· ≠ "")
  · rw [if_pos (.inr known), List.removeAll, filter_singleton, elem_eq_mem, decide_eq_true known]
    exact append_nil _
  · rw [if_neg (not_or.mpr ⟨empty, known⟩), List.removeAll, filter_singleton, elem_eq_mem, decide_eq_false known]
    rfl

theorem distinct_clean (member : record ∈ distinctCauses causes) : Solid record ∧ '\n' ∉ record.toList := by
  rw [distinctCauses, mem_eraseDups, mem_filter, List.mem_map] at member
  obtain ⟨⟨cause, -, rfl⟩, filled⟩ := member
  refine ⟨(trim_empty_or_solid _).resolve_left ?_, (normalize_free cause).1⟩
  exact of_decide_eq_true filled

theorem join_snoc (record) (some : records ≠ []) : joinCauses (records ++ [record]) = joinCauses records ++ "\n" ++ record := by
  apply String.toList_injective
  simp only [joinCauses, String.toList_intercalate, String.toList_append, map_append, map_singleton]
  induction records with
  | nil => exact absurd rfl some
  | cons _ rest ih =>
    cases rest with
    | nil => simp [intercalate_cons_cons]
    | cons => simpa [intercalate_cons_cons] using ih (cons_ne_nil _ _)

theorem join_first (first rest) : first.toList <+: (joinCauses (first :: rest)).toList := by
  rw [joinCauses, String.toList_intercalate]
  cases rest with
  | nil => simp
  | cons => simp [intercalate_cons_cons]

theorem has_joined (cause) (some : records ≠ []) (clean : ∀ record ∈ records, '\n' ∉ record.toList) :
    hasCause (joinCauses records) cause = true ↔ cause ∈ records := by
  have split : (joinCauses records).toList.splitOn '\n' = records.map String.toList := by
    rw [joinCauses, String.toList_intercalate]
    refine splitOn_intercalate '\n' ?_ (by simpa using some)
    simpa using clean
  simp [hasCause, split, String.toList_inj]

theorem marked_append {text} (more) (marked : Marked text) : Marked (text ++ more) := by
  simp only [Marked, contains, decide_eq_true_eq, String.toList_append] at marked ⊢
  exact marked.trans (prefix_append _ _).isInfix

theorem marker_once {text} (record) (clear : ¬ Marked text) (free : '\n' ∉ record.toList) :
    Split.occurrences lastErrorTruncationMarker.toList (text ++ "\n" ++ record).toList ≤ 1 := by
  simp only [Marked, contains, decide_eq_true_eq] at clear
  have shape : lastErrorTruncationMarker.toList = '\n' :: "... (later causes truncated)".toList := rfl
  rw [shape] at clear ⊢
  simpa using Split.occurrences_once clear (by decide) free

end

-- Every cause so far is in the text, and none but the last can be taken for the marker.
structure Recorded (records : List String) (text : String) : Prop where
  whole : text = joinCauses records
  short : text.length ≤ lastErrorCauseBudget
  clear : ¬ Marked (joinCauses records.dropLast)

structure Saturated (records : List String) (text : String) : Prop where
  marked : Marked text
  solid : Solid text
  bounded : text.length ≤ maxLastErrorLength
  once : Split.occurrences lastErrorTruncationMarker.toList text.toList ≤ 1
  starts : ∃ first rest, records = first :: rest ∧ first.toList.take lastErrorCauseBudget <+: text.toList
  lost : (joinCauses records).length ≤ lastErrorCauseBudget →
    text.length < (joinCauses records).length ∧ Marked (joinCauses records.dropLast)

section

variable {causes records : List String} {cause text : String} (cause : String)

theorem saturated_append (saturated : Saturated records text) : appendErrorCause text cause = text := by
  have filled := (solid_not_blank text saturated.solid).2.1
  have marked : contains text lastErrorTruncationMarker = true := saturated.marked
  simp [appendErrorCause, filled, marked]

theorem saturated_more (record) (saturated : Saturated records text) : Saturated (records ++ [record]) text := by
  obtain ⟨first, rest, rfl, starts⟩ := saturated.starts
  have joined := join_snoc record (cons_ne_nil first rest)
  refine { saturated with starts := ⟨first, rest ++ [record], rfl, starts⟩, lost := ?_ }
  intro short
  rw [dropLast_concat]
  rw [joined, String.length_append, String.length_append] at short ⊢
  obtain ⟨_, marked⟩ := saturated.lost (by omega)
  refine ⟨by omega, ?_⟩
  obtain alone | ⟨front, _, same⟩ := eq_nil_or_concat (first :: rest)
  · cases alone
  rw [same, concat_eq_append, dropLast_concat] at marked
  rw [same, concat_eq_append]
  by_cases none : front = []
  · subst none
    cases marked
  · rw [join_snoc _ none, String.append_assoc]
    exact marked_append _ marked

theorem truncated_saturated {first} {rest} (solid : Solid text) (clear : ¬ Marked (truncateToRuneBudget text lastErrorCauseBudget))
    (starts : first.toList.take lastErrorCauseBudget <+: text.toList)
    (long : lastErrorCauseBudget < (joinCauses (first :: rest)).length) :
    Saturated (first :: rest) (truncateToRuneBudget text lastErrorCauseBudget ++ lastErrorTruncationMarker) := by
  have cut : (truncateToRuneBudget text lastErrorCauseBudget).length ≤ lastErrorCauseBudget := by
    simp only [truncateToRuneBudget, String.length_ofList, length_take]
    omega
  refine ⟨contains_truncated text _, solid_append _ _ (solid_truncate text _ (by decide) solid), ?_, ?_, ?_, ?_⟩
  · have room : lastErrorCauseBudget + lastErrorTruncationMarker.length = maxLastErrorLength := by decide
    rw [String.length_append]
    omega
  · have once := marker_once "... (later causes truncated)" clear (by decide)
    rwa [String.append_assoc] at once
  · refine ⟨first, rest, rfl, ?_⟩
    rw [String.toList_append]
    refine List.IsPrefix.trans ?_ (prefix_append _ _)
    have taken := starts.take lastErrorCauseBudget
    simpa [truncateToRuneBudget, take_take] using taken
  · intro _
    omega

theorem unmarked_record {record} (free : '\n' ∉ record.toList) : ¬ Marked record := by
  simp only [Marked, contains, decide_eq_true_eq]
  intro inside
  exact free (inside.subset (by decide))

theorem recorded_first (filled : normalizeCause cause ≠ "") : Recorded [normalizeCause cause] (appendErrorCause "" cause) ∨
      Saturated [normalizeCause cause] (appendErrorCause "" cause) := by
  have free := (normalize_free cause).1
  have stored : appendErrorCause "" cause = boundErrorCause cause := by
    rw [← bound_normalize cause]
    simp only [appendErrorCause, filled, show Go.trimSpace "" = "" by decide, if_false, if_true]
  have alone : joinCauses [normalizeCause cause] = normalizeCause cause := by simp [joinCauses]
  rw [stored]
  by_cases short : (normalizeCause cause).length ≤ lastErrorCauseBudget
  · rw [bound_short short]
    exact .inl ⟨alone.symm, short, unmarked_record (by simp [joinCauses])⟩
  rw [bound_long short]
  refine .inr (truncated_saturated ?_ ?_ ( take_prefix _ _) (by rw [alone]; omega))
  · exact (trim_empty_or_solid _).resolve_left filled
  · refine unmarked_record fun inside => free ?_
    exact ( take_prefix _ _).subset (by simpa [truncateToRuneBudget] using inside)

theorem recorded_once (recorded : Recorded (distinctCauses causes) text) : Split.occurrences lastErrorTruncationMarker.toList text.toList ≤ 1 := by
  obtain ⟨rfl, -, clear⟩ := recorded
  obtain none | ⟨front, last, same⟩ := eq_nil_or_concat (distinctCauses causes)
  · rw [none]
    decide
  rw [concat_eq_append] at same
  rw [same, dropLast_concat] at clear
  have free : '\n' ∉ last.toList := (distinct_clean (by rw [same]; simp)).2
  rw [same]
  by_cases none : front = []
  · subst none
    have bare : Split.occurrences lastErrorTruncationMarker.toList last.toList = 0 := Split.occurrences_free _ free
    simp [joinCauses, bare]
  · rw [join_snoc _ none]
    exact marker_once _ clear free

theorem recorded_append (recorded : Recorded (distinctCauses causes) text) :
    Recorded (distinctCauses (causes ++ [cause])) (appendErrorCause text cause) ∨
      Saturated (distinctCauses (causes ++ [cause])) (appendErrorCause text cause) := by
  rw [distinct_snoc]
  by_cases empty : normalizeCause cause = ""
  · rw [if_pos (.inl empty)]
    refine .inl ?_
    simpa only [appendErrorCause, empty, if_true] using recorded
  cases found : distinctCauses causes with
  | nil =>
    have same := recorded.whole
    rw [found] at same
    subst same
    rw [if_neg (by simp [empty])]
    exact recorded_first cause empty
  | cons first rest =>
    have some : distinctCauses causes ≠ [] := by simp [found]
    have clean := fun record (member : record ∈ distinctCauses causes) => (distinct_clean member).2
    rw [← found]
    obtain rfl := recorded.whole
    have starts : first.toList <+: (joinCauses (distinctCauses causes)).toList := found ▸ join_first first rest
    have solid : Solid (joinCauses (distinctCauses causes)) := by
      obtain ⟨⟨head, tail, shape, blank⟩, -⟩ := distinct_clean (found ▸ mem_cons_self : first ∈ distinctCauses causes)
      obtain ⟨more, whole⟩ := starts
      exact ⟨head, tail ++ more, by rw [← whole, shape, cons_append], blank⟩
    have filled := (solid_not_blank _ solid).2.1
    have known := has_joined (normalizeCause cause) some clean
    simp only [appendErrorCause, empty, filled, known, false_or, if_false]
    by_cases member : normalizeCause cause ∈ distinctCauses causes
    · simp only [member, if_true]
      exact .inl recorded
    have joined := join_snoc (normalizeCause cause) some
    have longer : (joinCauses (distinctCauses causes ++ [normalizeCause cause])).length =
        (joinCauses (distinctCauses causes)).length + 1 + (normalizeCause cause).length := by
      rw [joined, String.length_append, String.length_append]
      rfl
    simp only [member, if_false]
    split
    · next marked =>
      -- a cause of the sequence reads as the marker: what comes behind it is dropped
      refine .inr ⟨marked, solid, ?_, ?_, ⟨first, rest ++ [normalizeCause cause], by rw [found]; rfl, ?_⟩, ?_⟩
      · exact recorded.short.trans (by decide)
      · exact recorded_once recorded
      · exact ( take_prefix _ _).trans starts
      · rw [dropLast_concat, longer]
        exact fun _ => ⟨by omega, marked⟩
    · next unmarked =>
      split
      · next fits =>
        refine .inl ⟨joined.symm, ?_, by rwa [dropLast_concat]⟩
        rw [← joined, longer]
        exact fits
      next full =>
      have whole : truncateToRuneBudget (joinCauses (distinctCauses causes)) lastErrorCauseBudget = joinCauses (distinctCauses causes) := by
        rw [truncateToRuneBudget, take_of_length_le (String.length_toList ▸ recorded.short), String.ofList_toList]
      refine .inr ?_
      rw [found, cons_append] at longer ⊢
      rw [found] at whole unmarked starts solid
      refine truncated_saturated solid ?_ (( take_prefix _ _).trans starts) ?_
      · rwa [whole]
      · rw [longer, ← found]
        omega

theorem fold_reached (causes) : Recorded (distinctCauses causes) (foldCauses causes) ∨ Saturated (distinctCauses causes) (foldCauses causes) := by
  induction causes using List.reverseRecOn with
  | nil => exact .inl ⟨rfl, by decide, unmarked_record (by decide)⟩
  | append_singleton causes cause ih =>
    have last : foldCauses (causes ++ [cause]) = appendErrorCause (foldCauses causes) cause := foldl_concat ..
    rw [last]
    rcases ih with recorded | saturated
    · exact recorded_append cause recorded
    rw [saturated_append cause saturated, distinct_snoc]
    split
    · exact .inr saturated
    · exact .inr (saturated_more _ saturated)

end

theorem causes_kept_iff (causes : List String) :
    ((joinCauses (distinctCauses causes)).length ≤ lastErrorCauseBudget →
        (foldCauses causes = joinCauses (distinctCauses causes) ↔ ¬ Marked (joinCauses (distinctCauses causes).dropLast))) ∧
      (foldCauses causes).length ≤ maxLastErrorLength ∧
      Split.occurrences lastErrorTruncationMarker.toList (foldCauses causes).toList ≤ 1 ∧
      ∀ first, (distinctCauses causes).head? = some first →
        first.toList.take lastErrorCauseBudget <+: (foldCauses causes).toList := by
  rcases fold_reached causes with recorded | saturated
  · refine ⟨fun _ => ⟨fun _ => recorded.clear, fun _ => recorded.whole⟩, recorded.short.trans (by decide),
      recorded_once recorded, ?_⟩
    intro first found
    obtain ⟨rest, shape⟩ := head?_eq_some_iff.mp found
    rw [recorded.whole, shape]
    exact ( take_prefix _ _).trans (join_first first rest)
  · refine ⟨fun short => ?_, saturated.bounded, saturated.once, ?_⟩
    · obtain ⟨less, marked⟩ := saturated.lost short
      exact ⟨fun same => absurd (congrArg String.length same) less.ne, fun clear => absurd marked clear⟩
    obtain ⟨_, _, shape, starts⟩ := saturated.starts
    rw [shape]
    rintro _ ⟨⟩
    exact starts

theorem marker_like_cause_loses :
    foldCauses ["a", "... (later causes truncated)", "b"] = "a\n... (later causes truncated)" ∧
      joinCauses (distinctCauses ["a", "... (later causes truncated)", "b"]) = "a\n... (later causes truncated)\nb" ∧
      "a\n... (later causes truncated)\nb".length ≤ lastErrorCauseBudget := by
  decide

end LibCommons.Outbox
