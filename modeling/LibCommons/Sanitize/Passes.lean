import LibCommons.Lib.Masking
import LibCommons.Sanitize.PemReading
import LibCommons.Sanitize.Pipeline

namespace LibCommons.Sanitize

open Regex Masking

open List hiding all

-- What a pass does to a text: spans of it become the marker.
abbrev Masks (before after : Bytes) : Prop := Masked 42 4 before after

theorem marker_mask : marker = mask 42 4 := by decide

theorem masks_refl (text) : Masks text text := masked_refl 42 4 text

theorem masks_trans {first second third} (one : Masks first second) (other : Masks second third) : Masks first third := masked_trans 42 4 one other

theorem slice_drop (s) (start stop : Nat) (ordered : start ≤ stop) : slice s start stop ++ s.drop stop = s.drop start := by
  obtain ⟨_, rfl⟩ := Nat.exists_eq_add_of_le ordered
  rw [slice, Nat.add_sub_cancel_left, ← drop_drop, take_append_drop]

theorem drop_slices (s) {pos start stop} (ordered : pos ≤ start) (ordered' : start ≤ stop) :
    s.drop pos = slice s pos start ++ slice s start stop ++ s.drop stop := by
  rw [append_assoc, slice_drop s start stop ordered', slice_drop s pos start ordered]

theorem reading_masks {s} (seen front) (pos : Nat) : Masks (front ++ s.drop pos) (front ++ reading s seen pos) := by
  induction left : s.length - pos using Nat.strong_induction_on generalizing pos front with
  | _ _ ih =>
    subst left
    cases opened : nextLine s seen false pos with
    | none =>
      rw [reading_none s seen pos opened]
      exact masks_refl _
    | some line =>
      obtain ⟨member, -, behind, -⟩ := next_line_some s seen false pos line opened
      have ahead := block_ahead s seen line member
      have inside := line_inside s seen line member
      have dash := line_dash s line.start line (seen.stand line member)
      have byte := slice_byte s line.start (blockStop s seen line) 0 ahead
      rw [add_zero, dash] at byte
      have block := masked_span 42 4 (front ++ slice s pos line.start) (slice s line.start (blockStop s seen line))
        (s.drop (blockStop s seen line)) (.inl ⟨_, mem_of_getElem? byte, by decide⟩)
      have rest := ih _ (by omega) (front ++ slice s pos line.start ++ marker) (blockStop s seen line) rfl
      rw [drop_slices s behind (le_of_lt ahead), reading_some s seen pos line opened]
      rw [marker_mask] at rest ⊢
      simp only [append_assoc] at block rest ⊢
      exact masks_trans block rest

theorem pem_masks (s) : Masks s (redactPemBlocks s) := by
  have all := reading_masks (foundLines s) [] 0
  rwa [drop_zero, nil_append, nil_append, ← code_reading] at all

section

theorem replace_masks (pattern : Pattern) (replacement : Hit UInt8 → Bytes) (each : ∀ prev text hit, pattern.matchAt prev text = some hit → ∀ front,
      Masks (front ++ text) (front ++ replacement hit ++ text.drop hit.text.length)) (s : Bytes) :
    Masks s (pattern.replaceAll replacement s) := by
  have all := masked_replace 42 4 pattern replacement [] (by
    intro prev text hit found _ front
    simpa using each prev text hit found front) [] s
  simpa using all

theorem slice_append (text) (a b c : Nat) (ordered : a ≤ b) (ordered' : b ≤ c) : slice text a b ++ slice text b c = slice text a c := by
  obtain ⟨_, rfl⟩ := Nat.exists_eq_add_of_le ordered
  obtain ⟨_, rfl⟩ := Nat.exists_eq_add_of_le ordered'
  rw [slice, slice, slice, Nat.add_sub_cancel_left, Nat.add_sub_cancel_left, add_assoc, Nat.add_sub_cancel_left, ← drop_drop, take_add]

theorem group_slice (hit : Hit UInt8) (text : Bytes) (stop index a b : Nat) (taken : hit.text = text.take stop)
    (span : hit.span index = some (a, b)) (inside : b ≤ stop) : hit.group index = slice text a b := by
  rw [Hit.group, span]
  simp only [taken, slice]
  rw [drop_take, take_take, min_eq_left (Nat.sub_le_sub_right inside a)]

structure Stands (text : Bytes) (place : Place UInt8) : Prop where
  rest : place.rest = text.drop place.pos
  inside : place.pos ≤ text.length

variable {pattern : Pattern} {text : Bytes} {place last : Place UInt8}

theorem run_stands (stands : Stands text place) (member : last ∈ run pattern place) : Stands text last := by
  obtain ⟨_, shape, pos⟩ := run_reaches pattern place last member
  rw [stands.rest] at shape
  constructor
  · rw [pos, ← drop_drop, shape, drop_left]
  have length := congrArg List.length shape
  rw [length_drop, length_append] at length
  have inside := stands.inside
  omega

theorem run_clear (refused : refuses [42] pattern = true) (stands : Stands text place) (member : last ∈ run pattern place) :
    (42 : UInt8) ∉ slice text place.pos last.pos := by
  obtain ⟨_, shape, pos, clear⟩ := run_without refused place last member
  rw [slice, ← stands.rest, shape, pos, Nat.add_sub_cancel_left, take_left]
  exact clear 42 mem_cons_self

theorem stands_start (prev text) : Stands text ⟨prev, 0, text, []⟩ := ⟨rfl, Nat.zero_le _⟩

structure Tailed (accepts : UInt8 → Bool) (text : Bytes) (hit : Hit UInt8) (n : Nat) : Prop where
  positive : 0 < n
  inside : n ≤ text.length
  clear : (42 : UInt8) ∉ text.take n
  taken : hit.text = text.take (n + width accepts (text.drop n))

variable {accepts : UInt8 → Bool} {prev : Option UInt8} {hit : Hit UInt8}

theorem tailed_middle {front} (refused : refuses [42] front = true) (positive : 0 < least front)
    {middle} (member : middle ∈ run front ⟨prev, 0, text, []⟩)
    (taken : hit.text = text.take (middle.pos + width accepts (text.drop middle.pos))) : Tailed accepts text hit middle.pos := by
  have start := stands_start prev text
  have far := run_least _ _ middle member
  simp only [zero_add] at far
  exact ⟨lt_of_lt_of_le positive far, (run_stands start member).inside, run_clear refused start member, taken⟩

theorem match_tailed (accepts front) (present : front ≠ [])
    (refused : refuses [42] (all front) = true) (positive : 0 < least (all front)) (prev text hit)
    (found : (all (front ++ [plus (one accepts)])).matchAt prev text = some hit) :
    ∃ middle ∈ run (all front) ⟨prev, 0, text, []⟩, Tailed accepts text hit middle.pos ∧ hit.marks = middle.marks := by
  rw [matchAt, Option.map_eq_some_iff] at found
  obtain ⟨last, first, rfl⟩ := found
  obtain ⟨middle, member, _, rfl⟩ := run_tail accepts front present _ last first
  have rest := (run_stands (stands_start prev text) member).rest
  refine ⟨middle, member, tailed_middle refused positive member ?_, rfl⟩
  rw [past_pos, rest]

variable {n : Nat}

theorem tailed_length (tailed : Tailed accepts text hit n) : hit.text.length = n + width accepts (text.drop n) := by
  have inside := tailed.inside
  have bound := width_le accepts (text.drop n)
  rw [length_drop] at bound
  rw [tailed.taken, length_take]
  omega

theorem tailed_masks (accepted : accepts 42 = true) (tailed : Tailed accepts text hit n) (front) :
    Masks (front ++ text) (front ++ (text.take n ++ marker) ++ text.drop hit.text.length) := by
  have masked := masked_tail 42 4 front [] text accepts accepted n tailed.positive tailed.inside tailed.clear (by simp)
  rw [tailed_length tailed, marker_mask]
  simpa using masked

theorem azure_masks (s : Bytes) : Masks s (redactAzureSignature s) := by
  apply replace_masks
  intro prev text hit found front
  obtain ⟨_, member, tailed, marks⟩ := match_tailed _ [_] (cons_ne_nil _ _) (by decide) (by decide) prev text hit found
  obtain ⟨inner, reached, rfl⟩ := mem_map.mp member
  have none := run_marks _ (by decide) _ inner reached
  have group : hit.group 1 = text.take inner.pos := by
    rw [group_slice hit text _ 1 0 inner.pos tailed.taken (by simp [Hit.span, marks, none]) (Nat.le_add_right _ _)]
    rfl
  rw [group]
  exact tailed_masks (by decide) tailed front

theorem group_step {index} {body} (none : groupless body = true) (member : last ∈ run (group index body) place) :
    last.marks = (index, place.pos, last.pos) :: place.marks ∧ place.pos ≤ last.pos := by
  obtain ⟨inner, reached, rfl⟩ := mem_map.mp member
  have far := run_least body place inner reached
  refine ⟨?_, by simp only; omega⟩
  rw [← run_marks body none place inner reached]

def isAuthByte (b : UInt8) : Bool := !byteOf ['\r', '\n', ',', '"', ']', '}', ';', '\\'] b

theorem auth_tailed (found : authHeaderPattern.matchAt prev text = some hit) :
    ∃ n, Tailed isAuthByte text hit n ∧ hit.group 1 ++ hit.group 2 ++ hit.group 3 = text.take n := by
  obtain ⟨middle, member, tailed, marks⟩ := match_tailed isAuthByte [_, _, _, _] (cons_ne_nil _ _) (by decide) (by decide) prev text hit found
  refine ⟨middle.pos, tailed, ?_⟩
  obtain ⟨start, edge, member⟩ := mem_flatMap.mp member
  obtain ⟨first, name, member⟩ := mem_flatMap.mp member
  obtain ⟨second, sign, member⟩ := mem_flatMap.mp member
  have same : start = ⟨prev, 0, text, []⟩ := by
    rw [wordEdge, run] at edge
    split at edge
    · exact mem_singleton.mp edge
    · cases edge
  obtain ⟨marks1, _⟩ := group_step (by decide) name
  obtain ⟨marks2, ahead2⟩ := group_step (by decide) sign
  rw [same] at marks1
  have far : middle.pos ≤ middle.pos + width isAuthByte (text.drop middle.pos) := Nat.le_add_right _ _
  rcases mem_append.mp member with scheme | plain
  · obtain ⟨marks3, ahead3⟩ := group_step (by decide) scheme
    rw [group_slice hit text _ 1 0 first.pos tailed.taken (by simp [Hit.span, marks, marks3, marks2, marks1]) (by omega),
      group_slice hit text _ 2 first.pos second.pos tailed.taken (by simp [Hit.span, marks, marks3, marks2]) (by omega),
      group_slice hit text _ 3 second.pos middle.pos tailed.taken (by simp [Hit.span, marks, marks3]) (by omega),
      slice_append _ _ _ _ (Nat.zero_le _) ahead2, slice_append _ _ _ _ (Nat.zero_le _) ahead3]
    rfl
  · rw [mem_singleton.mp plain] at tailed marks far ⊢
    have absent : hit.group 3 = [] := by simp [Hit.group, Hit.span, marks, marks2, marks1]
    rw [group_slice hit text _ 1 0 first.pos tailed.taken (by simp [Hit.span, marks, marks2, marks1]) (by omega),
      group_slice hit text _ 2 first.pos second.pos tailed.taken (by simp [Hit.span, marks, marks2]) (by omega),
      slice_append _ _ _ _ (Nat.zero_le _) ahead2, absent, append_nil]
    rfl

theorem front_plain {k q} (positive : 0 < n) (inside : n ≤ text.length) (clear : (42 : UInt8) ∉ text.take n)
    (within : n ≤ k) (some : (text.take k).take q ≠ []) : ∃ letter ∈ (text.take k).take q, letter ≠ 42 := by
  obtain ⟨b, _, rfl⟩ := exists_cons_of_length_pos (lt_of_lt_of_le positive inside)
  obtain ⟨_, rfl⟩ := Nat.exists_eq_add_of_lt positive
  obtain ⟨_, rfl⟩ := Nat.exists_eq_add_of_le within
  cases q with
  | zero => exact absurd rfl some
  | succ =>
    refine ⟨b, ?_, ?_⟩
    · rw [zero_add, add_right_comm, take_succ_cons, take_succ_cons]
      exact mem_cons_self
    · rintro rfl
      rw [zero_add, take_succ_cons] at clear
      exact clear mem_cons_self

theorem other_head (other : text.head? ≠ some 42) (some : text ≠ []) : ∃ letter ∈ text, letter ≠ 42 := by
  obtain ⟨b, _, rfl⟩ := exists_cons_of_ne_nil some
  exact ⟨b, mem_cons_self, fun star => other (by rw [star]; rfl)⟩

theorem run_behind (accepts : UInt8 → Bool) (accepted : accepts 42 = true) (text : Bytes) (n : Nat) :
    (text.drop (n + width accepts (text.drop n))).head? ≠ some 42 := by
  have behind := width_behind accepts (text.drop n)
  rw [getElem?_drop, ← head?_drop] at behind
  intro star
  rw [star, Option.any_some, accepted] at behind
  cases behind

theorem auth_masks (s) : Masks s (authHeaderPattern.replaceAll (fun hit => redactAuthHeader hit.text) s) := by
  apply replace_masks
  intro _ text hit found front
  obtain ⟨n, tailed, -⟩ := auth_tailed found
  obtain ⟨last, -, shape, -, -⟩ := match_at_some found
  have rest : text.drop hit.text.length = last.rest := by rw [shape, drop_left]
  rw [redactAuthHeader, rest]
  cases again : authHeaderPattern.find hit.text with
  | none =>
    rw [shape, append_assoc]
    exact masks_refl _
  | some place =>
    obtain ⟨q, inner⟩ := place
    obtain ⟨-, -, here⟩ := find_some _ (real_least _ (by decide)) hit.text q inner again
    obtain ⟨n', tailed', kept⟩ := auth_tailed here
    have whole : hit.text = hit.text.take q ++ (hit.text.drop q).take n' ++
        ((hit.text.drop q).drop n').take (width isAuthByte ((hit.text.drop q).drop n')) ++ [] ++
        (hit.text.drop q).drop (n' + width isAuthByte ((hit.text.drop q).drop n')) := by
      rw [append_nil, append_assoc (hit.text.take q), ← take_add, append_assoc, take_append_drop, take_append_drop]
    have real : (hit.text.drop q).take n' ≠ [] := by
      rw [← length_pos_iff, length_take]
      have positive := tailed'.positive
      have inside := tailed'.inside
      omega
    have before : hit.text.take q ≠ [] → ∃ letter ∈ hit.text.take q, letter ≠ 42 := by
      rw [tailed.taken]
      exact front_plain tailed.positive tailed.inside tailed.clear (Nat.le_add_right _ _)
    have after := run_behind isAuthByte (by decide) (hit.text.drop q) n'
    have right := run_behind isAuthByte (by decide) text n
    rw [← tailed_length tailed, rest] at right
    have masked := masked_inner 42 4 front last.rest hit.text _ _ _ _ _ whole before (other_head after) real tailed'.clear right
    rw [← marker_mask, append_nil] at masked
    simp only [kept]
    rw [shape, ← append_assoc]
    exact masked

structure Quoted (text : Bytes) (hit : Hit UInt8) (n m k : Nat) : Prop where
  positive : 0 < n
  ordered : n ≤ m
  closed : m < k
  inside : k ≤ text.length
  clear : (42 : UInt8) ∉ text.take n
  clear' : (42 : UInt8) ∉ slice text m k
  taken : hit.text = text.take k

theorem json_quoted (found : jsonKeyValuePattern.matchAt prev text = some hit) : ∃ n m k, Quoted text hit n m k ∧
      hit.group 1 ++ hit.group 2 ++ hit.group 3 ++ hit.group 4 ++ hit.group 5 = text.take n ∧
      hit.group 7 = slice text m k := by
  rw [matchAt, Option.map_eq_some_iff] at found
  obtain ⟨last, first, rfl⟩ := found
  have member := mem_of_head? first
  have start := stands_start prev text
  change last ∈ run (all ([_, _, _, _, _] ++ [_, _])) _ at member
  rw [run_all_append _ _ (cons_ne_nil _ _) (cons_ne_nil _ _)] at member
  obtain ⟨fifth, front, member⟩ := mem_flatMap.mp member
  obtain ⟨sixth, value, close⟩ := mem_flatMap.mp member
  have stands := run_stands start front
  have stands' := run_stands stands value
  have far := run_least _ _ fifth front
  have far' := run_least _ sixth last close
  have clear := run_clear (by decide) start front
  have clear' := run_clear (by decide) stands' close
  have inside := (run_stands stands' close).inside
  obtain ⟨one, step1, front⟩ := mem_flatMap.mp front
  obtain ⟨two, step2, front⟩ := mem_flatMap.mp front
  obtain ⟨three, step3, front⟩ := mem_flatMap.mp front
  obtain ⟨four, step4, step5⟩ := mem_flatMap.mp front
  obtain ⟨marks1, _⟩ := group_step (by decide) step1
  obtain ⟨marks2, ahead2⟩ := group_step (by decide) step2
  obtain ⟨marks3, ahead3⟩ := group_step (by decide) step3
  obtain ⟨marks4, ahead4⟩ := group_step (by decide) step4
  obtain ⟨marks5, ahead5⟩ := group_step (by decide) step5
  obtain ⟨marks6, ahead6⟩ := group_step (by decide) value
  obtain ⟨marks7, _⟩ := group_step (by decide) close
  have marks : last.marks = [(7, sixth.pos, last.pos), (6, fifth.pos, sixth.pos), (5, four.pos, fifth.pos),
      (4, three.pos, four.pos), (3, two.pos, three.pos), (2, one.pos, two.pos), (1, 0, one.pos)] := by
    rw [marks7, marks6, marks5, marks4, marks3, marks2, marks1]
  have closed : sixth.pos < last.pos := lt_of_lt_of_le (Nat.lt_add_of_pos_right (by decide)) far'
  have positive : 0 < fifth.pos := lt_of_lt_of_le (Nat.lt_add_left 0 (by decide)) far
  have group (index a b : Nat) (span : (Hit.mk (text.take last.pos) last.marks).span index = some (a, b)) (within : b ≤ last.pos) :=
    group_slice _ text last.pos index a b rfl span within
  refine ⟨fifth.pos, sixth.pos, last.pos, ⟨positive, ahead6, closed, inside, clear, clear', rfl⟩, ?_, ?_⟩
  · rw [group 1 0 one.pos (by simp [Hit.span, marks]) (by omega), group 2 one.pos two.pos (by simp [Hit.span, marks]) (by omega),
      group 3 two.pos three.pos (by simp [Hit.span, marks]) (by omega),
      group 4 three.pos four.pos (by simp [Hit.span, marks]) (by omega),
      group 5 four.pos fifth.pos (by simp [Hit.span, marks]) (by omega), slice_append _ _ _ _ (Nat.zero_le _) ahead2,
      slice_append _ _ _ _ (Nat.zero_le _) ahead3, slice_append _ _ _ _ (Nat.zero_le _) ahead4,
      slice_append _ _ _ _ (Nat.zero_le _) ahead5]
    rfl
  · rw [group 7 sixth.pos last.pos (by simp [Hit.span, marks]) le_rfl]

section

variable {text : Bytes} {hit : Hit UInt8} {n m k : Nat} (quoted : Quoted text hit n m k)

include quoted

theorem quoted_opening : text.take n ≠ [] := by
  obtain ⟨_, _, _, _, -, -, -⟩ := quoted
  rw [← length_pos_iff, length_take]
  omega

theorem quoted_closing : slice text m k ≠ [] := by
  obtain ⟨-, -, _, _, -, -, -⟩ := quoted
  rw [← length_pos_iff, slice, length_take, length_drop]
  omega

theorem quoted_front (q : Nat) (some : hit.text.take q ≠ []) : ∃ letter ∈ hit.text.take q, letter ≠ 42 := by
  obtain ⟨positive, _, _, _, clear, -, taken⟩ := quoted
  rw [taken] at some ⊢
  exact front_plain positive (by omega) clear (by omega) some

theorem quoted_back (p : Nat) (some : hit.text.drop p ≠ []) : ∃ letter ∈ hit.text.drop p, letter ≠ 42 := by
  obtain ⟨-, -, _, _, -, clear, taken⟩ := quoted
  have within : p < k := by
    rw [taken, ← length_pos_iff, length_drop, length_take] at some
    omega
  have byte : (slice text m k)[k - 1 - m]? = text[k - 1]? := by
    rw [slice_byte text m k _ (by omega)]
    congr 1
    omega
  have byte' : (hit.text.drop p)[k - 1 - p]? = text[k - 1]? := by
    rw [taken, getElem?_drop, getElem?_take_of_lt (by omega)]
    congr 1
    omega
  rw [getElem?_eq_getElem (show k - 1 < text.length by omega)] at byte byte'
  refine ⟨_, mem_of_getElem? byte', fun star => clear ?_⟩
  rw [← star]
  exact mem_of_getElem? byte

end

theorem json_masks (isSensitiveFieldName s) :
    Masks s (jsonKeyValuePattern.replaceAll (fun hit => redactJSONPair isSensitiveFieldName hit.text) s) := by
  apply replace_masks
  intro _ text hit found front
  obtain ⟨_, _, _, quoted, -, -⟩ := json_quoted found
  obtain ⟨last, -, shape, -, -⟩ := match_at_some found
  have rest : text.drop hit.text.length = last.rest := by rw [shape, drop_left]
  have same : Masks (front ++ text) (front ++ hit.text ++ last.rest) := by
    rw [shape, append_assoc]
    exact masks_refl _
  rw [redactJSONPair, rest]
  cases again : jsonKeyValuePattern.find hit.text with
  | none => exact same
  | some place =>
    obtain ⟨q, inner⟩ := place
    simp only
    split
    · exact same
    obtain ⟨-, -, here⟩ := find_some _ (real_least _ (by decide)) hit.text q inner again
    obtain ⟨n', m', k', quoted', kept, kept'⟩ := json_quoted here
    have whole : hit.text = hit.text.take q ++ (hit.text.drop q).take n' ++ slice (hit.text.drop q) n' m' ++
        slice (hit.text.drop q) m' k' ++ (hit.text.drop q).drop k' := by
      have cut := drop_slices (hit.text.drop q) (Nat.zero_le _) (le_trans quoted'.ordered (le_of_lt quoted'.closed))
      rw [← slice_append _ n' m' k' quoted'.ordered (le_of_lt quoted'.closed), drop_zero] at cut
      have front := take_append_drop q hit.text
      rw [cut] at front
      rw [← append_assoc, ← append_assoc, ← append_assoc] at front
      exact front.symm
    have closing : slice (hit.text.drop q) m' k' ≠ [] := quoted_closing quoted'
    have right : (slice (hit.text.drop q) m' k' ++ last.rest).head? ≠ some 42 := by
      rw [head?_append_of_ne_nil _ closing]
      exact fun star => quoted'.clear' (mem_of_head? star)
    have masked := masked_inner 42 4 front last.rest hit.text _ _ _ _ _ whole (quoted_front quoted q)
      (by rw [drop_drop]; exact quoted_back quoted (q + k')) (quoted_opening quoted') quoted'.clear right
    rw [← marker_mask] at masked
    rw [kept, kept', shape, ← append_assoc]
    exact masked

end

section

variable (isSensitiveFieldName : Bytes → Bool) (s : Bytes)

theorem slice_last (start stop : Nat) (ahead : start < stop) (inside : stop ≤ s.length) : (slice s start stop).getLast? = s[stop - 1]? := by
  have length : (slice s start stop).length = stop - start := by
    rw [slice, length_take, length_drop]
    omega
  rw [getLast?_eq_getElem?, length, slice_byte s start stop _ (by omega)]
  congr 1
  omega

theorem between_masks (out) (written start stop : Nat) (ahead : written < start) (ordered : start ≤ stop)
    (inside : start ≤ s.length) (before : s[start - 1]? ≠ some 42)
    (bounded : (∃ letter ∈ slice s start stop, letter ≠ 42) ∨ s[stop]? ≠ some 42) :
    Masks (out ++ s.drop written) (out ++ slice s written start ++ marker ++ s.drop stop) := by
  rw [drop_slices s (le_of_lt ahead) ordered, marker_mask]
  have masked := masked_span 42 4 (out ++ slice s written start) (slice s start stop) (s.drop stop) (by
    rcases bounded with other | behind
    · exact .inl other
    right
    have last := slice_last s written start ahead inside
    have real : slice s written start ≠ [] := by
      rw [← length_pos_iff, slice, length_take, length_drop]
      omega
    rw [getLast?_append_of_ne_nil _ real, last, head?_drop]
    exact ⟨before, behind⟩)
  simpa only [append_assoc] using masked

theorem tailed_before {accepts : UInt8 → Bool} {s : Bytes} {p : Nat} {hit : Hit UInt8} {n : Nat}
    (tailed : Tailed accepts (s.drop p) hit n) : p < p + n ∧ p + n ≤ s.length ∧ s[p + n - 1]? ≠ some 42 := by
  obtain ⟨_, inside, clear, -⟩ := tailed
  rw [length_drop] at inside
  refine ⟨by omega, by omega, fun star => clear ?_⟩
  have byte : ((s.drop p).take n)[n - 1]? = some 42 := by
    rw [getElem?_take_of_lt (by omega), getElem?_drop, ← star]
    congr 1
    omega
  exact mem_of_getElem? byte

theorem match_group (accepts : UInt8 → Bool) (front : List Pattern) (present : front ≠ []) (index : Nat)
    (prev : Option UInt8) (text : Bytes) (hit : Hit UInt8)
    (found : (all (front ++ [group index (plus (one accepts))])).matchAt prev text = some hit) :
    ∃ middle ∈ run (all front) ⟨prev, 0, text, []⟩, width accepts (text.drop middle.pos) ≠ 0 ∧
      hit.text = text.take (middle.pos + width accepts (text.drop middle.pos)) ∧
      hit.span index = some (middle.pos, middle.pos + width accepts (text.drop middle.pos)) := by
  rw [matchAt, Option.map_eq_some_iff] at found
  obtain ⟨last, first, rfl⟩ := found
  obtain ⟨middle, member, real, rfl⟩ := run_group_tail accepts front present index _ last first
  have rest := (run_stands (stands_start prev text) member).rest
  rw [rest] at real
  refine ⟨middle, member, real, ?_, ?_⟩
  · rw [mark_pos, past_pos, rest]
  · simp [Hit.span, rest]

theorem match_group_tailed (accepts front) (present : front ≠ [])
    (refused : refuses [42] (all front) = true) (positive : 0 < least (all front)) (index : Nat) (prev text hit)
    (found : (all (front ++ [group index (plus (one accepts))])).matchAt prev text = some hit) :
    ∃ n, Tailed accepts text hit n ∧ width accepts (text.drop n) ≠ 0 ∧ hit.span index = some (n, n + width accepts (text.drop n)) := by
  obtain ⟨middle, member, real, taken, span⟩ := match_group accepts front present index prev text hit found
  exact ⟨middle.pos, tailed_middle refused positive member taken, real, span⟩

theorem extend_from_le (fuel stop : Nat) : stop ≤ extendFrom s fuel stop := by
  induction fuel generalizing stop with
  | zero => exact le_rfl
  | succ _ ih =>
    rw [extendFrom]
    split
    · simp only
      split
      · exact le_rfl
      · exact le_trans (by omega) (ih _)
    · exact le_rfl

theorem extend_bounded (start stop : Nat) (ahead : start < stop) (behind : s[stop]? ≠ some 42) :
    stop ≤ extendOverGroupedDigits s start stop ∧ ((∃ letter ∈ slice s start (extendOverGroupedDigits s start stop), letter ≠ 42) ∨
        s[extendOverGroupedDigits s start stop]? ≠ some 42) := by
  rw [extendOverGroupedDigits]
  split
  · exact ⟨le_rfl, .inr behind⟩
  rename_i digits
  have further := extend_from_le s s.length stop
  refine ⟨further, .inl ?_⟩
  rw [Bool.not_eq_true', Bool.not_eq_false, allDigits, Bool.and_eq_true, all_eq_true, decide_eq_true_eq] at digits
  obtain ⟨all, real⟩ := digits
  obtain ⟨b, _, shape⟩ := exists_cons_of_ne_nil real
  refine ⟨b, ?_, ?_⟩
  · rw [← slice_append s start stop _ (le_of_lt ahead) further, shape]
    exact mem_cons_self
  · rintro rfl
    have digit := all 42 (by rw [shape]; exact mem_cons_self)
    cases digit

theorem query_from_masks (hits) (found : ∀ place ∈ hits, matchIn queryParameterPattern none s place.1 = some place.2) (written : Nat) (out)
    (masked : Masks s (out ++ s.drop written)) (fresh : written = 0 → out = []) :
    let result := redactQueryFrom isSensitiveFieldName s hits written out
    Masks s (result.2 ++ s.drop result.1) ∧ (result.1 = 0 → result.2 = []) := by
  induction hits generalizing written out with
  | nil => exact ⟨masked, fresh⟩
  | cons place _ ih =>
    obtain ⟨pos, hit⟩ := place
    have rest := ih fun other member => found other (mem_cons_of_mem _ member)
    simp only [redactQueryFrom]
    split
    · exact rest written out masked fresh
    rename_i behind
    split
    · exact rest written out masked fresh
    have here : matchIn queryParameterPattern none s pos = some hit := found (pos, hit) mem_cons_self
    obtain ⟨n, tailed, _, span⟩ := match_group_tailed isQueryValueByte [_, _, _] (cons_ne_nil _ _) (by decide) (by decide) 3 _ _ hit here
    obtain ⟨_, inside, before⟩ := tailed_before tailed
    have stop := run_behind isQueryValueByte (by decide) (s.drop pos) n
    rw [head?_drop, getElem?_drop] at stop
    rw [span]
    simp only [Option.getD_some]
    obtain ⟨further, bounded⟩ := extend_bounded s (pos + n) (pos + (n + width isQueryValueByte ((s.drop pos).drop n))) (by omega) stop
    have step := between_masks s out written (pos + n) _ (by omega) (le_trans (by omega) further) inside before bounded
    apply rest
    · exact masks_trans masked step
    · intro zero
      exact absurd (le_trans further (le_of_eq zero)) (by omega)

theorem query_masks : Masks s (redactQueryParameters isSensitiveFieldName s) := by
  have all := query_from_masks isSensitiveFieldName s (queryParameterPattern.findAll s)
    (fun place member => (found_in _ s place member).2) 0 [] (masks_refl s) (fun _ => rfl)
  rw [redactQueryParameters]
  simp only
  split
  · exact masks_refl s
  · exact all.1

end

variable (token : Bytes)

theorem one_url_shape : redactOneURL token = token ∨ ∃ head userinfo tail, token = head ++ userinfo ++ tail ∧ head.getLast? = some 47 ∧
      tail.head? = some atSign ∧ redactOneURL token =
        if userinfo.contains colon then head ++ marker ++ [colon] ++ marker ++ tail else head ++ marker ++ tail := by
  simp only [redactOneURL]
  cases sep : schemeSepIndex token with
  | none => exact .inl rfl
  | some schemeSep =>
    simp only
    generalize accepted : (token.drop (schemeSep + 3)).takeWhile (fun b => !byteOf ['/', '?'] b) = authority
    cases shape : authority.reverse.dropWhile (fun b => b != atSign) with
    | nil => exact .inl rfl
    | cons sign before =>
      right
      have found := find?_some sep
      have inside := mem_range.mp (mem_of_find?_eq_some sep)
      have slash : (token.take (schemeSep + 3)).getLast? = some 47 := by
        have last := slice_last token 0 (schemeSep + 3) (Nat.succ_pos _) (by omega)
        have byte := slice_byte token schemeSep (schemeSep + 3) 2 (by omega)
        rw [beq_iff_eq.mp found] at byte
        rw [slice, drop_zero] at last
        rw [← Nat.sub_zero (schemeSep + 3), last]
        exact byte.symm
      have at' : sign = atSign := by
        have fails := dropWhile_get_zero_not (fun b => b != atSign) authority.reverse (by rw [shape]; simp)
        simpa [shape] using fails
      have pieces := takeWhile_append_dropWhile (p := fun b => b != atSign) (l := authority.reverse)
      rw [shape] at pieces
      have split := congrArg List.reverse pieces
      rw [reverse_reverse, reverse_append, reverse_cons, append_assoc, singleton_append] at split
      obtain ⟨later, whole⟩ : ∃ later, token.drop (schemeSep + 3) = before.reverse ++ sign :: later := by
        rw [← takeWhile_append_dropWhile (p := fun b => !byteOf ['/', '?'] b) (l := token.drop (schemeSep + 3)),
          accepted, ← split, append_assoc, cons_append]
        exact ⟨_, rfl⟩
      refine ⟨token.take (schemeSep + 3), before.reverse, sign :: later, ?_, slash, by rw [at']; rfl, ?_⟩
      · rw [append_assoc, ← whole, take_append_drop]
      · simp only [whole, drop_left]

theorem one_url_masks (front back) : Masks (front ++ token ++ back) (front ++ redactOneURL token ++ back) := by
  rcases one_url_shape token with same | ⟨head, userinfo, tail, whole, slash, sign, redacted⟩
  · rw [same]
    exact masks_refl _
  have last : (front ++ head).getLast? ≠ some 42 := by
    rw [getLast?_append, slash, Option.some_or]
    decide
  have next : (tail ++ back).head? ≠ some 42 := by
    rw [head?_append, sign, Option.some_or]
    decide
  rw [redacted, marker_mask]
  split
  · rename_i colons
    obtain ⟨user, password, shape⟩ := append_of_mem (contains_iff_mem.mp colons)
    have first := masked_span 42 4 (front ++ head) user (colon :: password ++ tail ++ back) (.inr ⟨last, by
      rw [cons_append, cons_append, head?_cons]
      decide⟩)
    have second := masked_span 42 4 (front ++ head ++ mask 42 4 ++ [colon]) password (tail ++ back) (.inr ⟨by
      rw [getLast?_append_of_ne_nil _ (cons_ne_nil _ _), getLast?_singleton]
      decide, next⟩)
    rw [whole, shape]
    simp only [append_assoc, cons_append, nil_append] at first second ⊢
    exact masks_trans first second
  · have only := masked_span 42 4 (front ++ head) userinfo (tail ++ back) (.inr ⟨last, next⟩)
    rw [whole]
    simp only [append_assoc] at only ⊢
    exact only

theorem scheme_starts_sorted (places found) (sorted : found.Pairwise (· < ·)) : (schemeStartsFrom token places found).Pairwise (· < ·) := by
  induction places generalizing found with
  | nil => exact sorted
  | cons _ _ ih =>
    simp only [schemeStartsFrom]
    split
    · exact ih found sorted
    split
    · exact ih found sorted
    split
    · exact ih found sorted
    rename_i later
    apply ih
    rw [pairwise_append]
    refine ⟨sorted, pairwise_singleton _ _, ?_⟩
    intro _ member _ single
    rw [mem_singleton.mp single]
    have some := ne_nil_of_mem member
    rw [getLast?_eq_some_getLast some, Option.any_some, decide_eq_true_eq, not_le] at later
    have below := (sorted.imp le_of_lt).rel_getLast member
    omega

theorem urls_from_masks (starts) (sorted : starts.Pairwise (· < ·)) (start : Nat) (first : starts.head? = some start)
    (front back) : Masks (front ++ token.drop start ++ back) (front ++ redactURLsFrom token starts ++ back) := by
  induction starts generalizing start front with
  | nil => cases first
  | cons head rest ih =>
    obtain rfl : head = start := Option.some_inj.mp first
    cases rest with
    | nil => exact one_url_masks (token.drop head) front back
    | cons next =>
      have ordered : head < next := (pairwise_cons.mp sorted).1 next mem_cons_self
      have here := one_url_masks (slice token head next) front (token.drop next ++ back)
      have later := ih (pairwise_cons.mp sorted).2 next rfl (front ++ redactOneURL (slice token head next))
      rw [redactURLsFrom]
      have cut := slice_drop token head next (le_of_lt ordered)
      rw [← cut]
      simp only [append_assoc] at here later ⊢
      exact masks_trans here later

theorem userinfo_masks (front back) : Masks (front ++ token ++ back) (front ++ redactURLUserinfo token ++ back) := by
  rw [redactURLUserinfo]
  split
  · exact one_url_masks token front back
  rename_i several
  cases starts : schemeStarts token with
  | nil =>
    rw [starts] at several
    exact absurd (Nat.zero_le 1) several
  | cons start rest =>
    have sorted := scheme_starts_sorted token (List.range (token.length - 2)) [] List.Pairwise.nil
    rw [← schemeStarts, starts] at sorted
    have urls := urls_from_masks token (start :: rest) sorted start rfl (front ++ token.take start) back
    rw [append_assoc front, take_append_drop] at urls
    rwa [headD_cons, ← append_assoc]

theorem url_masks (s) : Masks s (urlPattern.replaceAll (fun hit => redactURLUserinfo hit.text) s) := by
  apply replace_masks
  intro _ _ hit found front
  obtain ⟨last, -, shape, -, -⟩ := match_at_some found
  rw [shape, drop_left, ← append_assoc]
  exact userinfo_masks hit.text front last.rest

end LibCommons.Sanitize
