import LibCommons.Sanitize.Armor

namespace LibCommons.Sanitize

open Regex List Option

section

variable {s : Bytes} {p : Nat} {line : Armor}

theorem armor_at_some (found : armorAt s p = some line) : line.start = p ∧ p < line.stop ∧ line.stop ≤ s.length ∧
      (if line.isEnd then endLine else beginLine).length (s.drop p) = some (line.stop - p) := by
  rw [armorAt, map_eq_some_iff] at found
  obtain ⟨⟨n, _⟩, found, rfl⟩ := found
  rcases or_eq_some_iff.mp found with opened | ⟨-, closed⟩
  · obtain ⟨m, here, shape⟩ := map_eq_some_iff.mp opened
    cases shape
    have reach := beginLine.reach _ n here
    rw [length_drop] at reach
    exact ⟨rfl, by simp only; omega, by simp only; omega, by simpa using here⟩
  · obtain ⟨_, here, shape⟩ := map_eq_some_iff.mp closed
    cases shape
    have reach := endLine.reach _ n here
    rw [length_drop] at reach
    exact ⟨rfl, by simp only; omega, by simp only; omega, by simpa using here⟩

theorem lines_apart {text} (opened : (beginLine.length text).isSome) : endLine.length text = none := by
  obtain ⟨n, opened⟩ := isSome_iff_exists.mp opened
  obtain ⟨-, word⟩ := line_some begin_sized opened
  rw [endLine, line_length end_sized, words_apart word]
  simp

variable {n : Nat}

theorem armor_begin (opened : beginLine.length (s.drop p) = some n) : armorAt s p = some ⟨p, p + n, false⟩ := by
  rw [armorAt, lineAt, opened]
  rfl

theorem armor_end (closed : endLine.length (s.drop p) = some n) : armorAt s p = some ⟨p, p + n, true⟩ := by
  cases opened : beginLine.length (s.drop p) with
  | none =>
    rw [armorAt, lineAt, opened, closed]
    rfl
  | some =>
    rw [lines_apart (by rw [opened]; rfl)] at closed
    cases closed

structure Seen (s : Bytes) where
  lines : List Armor
  sorted : lines.Pairwise fun line later => line.start < later.start
  stand : ∀ line ∈ lines, armorAt s line.start = some line

def everyLine (s : Bytes) : Seen s where
  lines := (List.range s.length).filterMap (armorAt s)
  sorted := by
    rw [pairwise_filterMap]
    apply pairwise_lt_range.imp
    intro p _ before line here _ there
    rw [(armor_at_some here).1, (armor_at_some there).1]
    exact before
  stand := by
    intro _ member
    obtain ⟨_, -, here⟩ := mem_filterMap.mp member
    rwa [(armor_at_some here).1]

theorem mem_every (here : armorAt s p = some line) : line ∈ (everyLine s).lines := by
  obtain ⟨-, _, _, -⟩ := armor_at_some here
  exact mem_filterMap.mpr ⟨p, mem_range.mpr (by omega), here⟩

theorem found_line (s line) (member : line ∈ armorLines s) : armorAt s line.start = some line := by
  obtain ⟨found, returned, rfl⟩ := List.mem_map.mp member
  obtain ⟨-, here⟩ := found_in pemArmorPattern s found returned
  have same := armor_of_match s found.1
  rw [here] at same
  exact same.symm

theorem found_lines_apart (s) : (armorLines s).Pairwise fun line later => line.stop ≤ later.start := by
  rw [armorLines, pairwise_map]
  exact found_apart pemArmorPattern s

def foundLines (s : Bytes) : Seen s where
  lines := armorLines s
  sorted := by
    apply (found_lines_apart s).imp_of_mem
    intro line _ member _ apart
    obtain ⟨-, ahead, -, -⟩ := armor_at_some (found_line s line member)
    exact lt_of_lt_of_le ahead apart
  stand := found_line s

end

section

variable (s : Bytes) (seen : Seen s)

def nextLine (isEnd : Bool) (pos : Nat) : Option Armor := seen.lines.find? fun line => line.isEnd == isEnd && decide (pos ≤ line.start)

-- With the next END line that is seen, or else with the body behind it.
def blockStop (line : Armor) : Nat :=
  match nextLine s seen true line.stop with
  | some last => last.stop
  | none => line.stop + headlessLength s line.stop

-- Each block from its BEGIN line on is the marker.
def readFrom : Nat → Nat → Bytes
  | 0, pos => s.drop pos
  | fuel + 1, pos =>
    match nextLine s seen false pos with
    | none => s.drop pos
    | some line => slice s pos line.start ++ marker ++ readFrom fuel (blockStop s seen line)

def reading (pos : Nat) : Bytes := readFrom s seen (s.length - pos) pos

theorem find_least (accepts line) (first : seen.lines.find? accepts = some line) :
    line ∈ seen.lines ∧ accepts line = true ∧ ∀ other ∈ seen.lines, accepts other = true → line.start ≤ other.start := by
  obtain ⟨accepted, _, _, shape, none⟩ := find?_eq_some_iff_append.mp first
  refine ⟨by rw [shape]; simp, accepted, fun other member passes => ?_⟩
  have sorted := seen.sorted
  rw [shape] at member sorted
  rcases mem_append.mp member with earlier | later
  · have fails := none other earlier
    rw [passes] at fails
    cases fails
  · rcases mem_cons.mp later with rfl | later
    · exact le_rfl
    · exact le_of_lt ((pairwise_cons.mp (pairwise_append.mp sorted).2.1).1 other later)

theorem find_least_iff (accepts line) (member : line ∈ seen.lines) (accepted : accepts line = true)
    (least : ∀ other ∈ seen.lines, accepts other = true → line.start ≤ other.start) :
    seen.lines.find? accepts = some line := by
  cases first : seen.lines.find? accepts with
  | none =>
    have fails := find?_eq_none.mp first line member
    exact absurd accepted fails
  | some other =>
    obtain ⟨inside, passes, below⟩ := find_least s seen accepts other first
    have same : other.start = line.start := le_antisymm (below line member accepted) (least other inside passes)
    have one := seen.stand other inside
    rw [same, seen.stand line member] at one
    exact one.symm

variable (isEnd : Bool) (pos : Nat)

theorem next_line_some (line) (next : nextLine s seen isEnd pos = some line) : line ∈ seen.lines ∧ line.isEnd = isEnd ∧ pos ≤ line.start ∧
      ∀ other ∈ seen.lines, other.isEnd = isEnd → pos ≤ other.start → line.start ≤ other.start := by
  obtain ⟨member, accepted, least⟩ := find_least s seen _ line next
  simp only [Bool.and_eq_true, beq_iff_eq, decide_eq_true_eq] at accepted least
  exact ⟨member, accepted.1, accepted.2, fun other inside kind behind => least other inside ⟨kind, behind⟩⟩

theorem next_line_of (line) (member : line ∈ seen.lines) (kind : line.isEnd = isEnd) (behind : pos ≤ line.start)
    (least : ∀ other ∈ seen.lines, other.isEnd = isEnd → pos ≤ other.start → line.start ≤ other.start) :
    nextLine s seen isEnd pos = some line := by
  apply find_least_iff s seen _ line member
  · simp [kind, behind]
  · intro other inside accepted
    simp only [Bool.and_eq_true, beq_iff_eq, decide_eq_true_eq] at accepted
    exact least other inside accepted.1 accepted.2

theorem next_line_none (absent : nextLine s seen isEnd pos = none) : ∀ line ∈ seen.lines, line.isEnd = isEnd → line.start < pos := by
  intro line member kind
  have fails := find?_eq_none.mp absent line member
  simp only [kind, beq_self_eq_true, Bool.true_and, decide_eq_true_eq] at fails
  omega

theorem line_inside (line) (member : line ∈ seen.lines) : line.start < line.stop ∧ line.stop ≤ s.length := by
  obtain ⟨-, ahead, inside, -⟩ := armor_at_some (seen.stand line member)
  exact ⟨ahead, inside⟩

theorem block_ahead (line) (member : line ∈ seen.lines) : line.start < blockStop s seen line := by
  have ahead := line_inside s seen line member
  rw [blockStop]
  split
  · rename_i last closed
    obtain ⟨inside, -, _, -⟩ := next_line_some s seen true _ last closed
    have ahead' := line_inside s seen last inside
    omega
  · omega

theorem read_past (fuel pos : Nat) (past : s.length ≤ pos) : readFrom s seen fuel pos = s.drop pos := by
  cases fuel with
  | zero => rfl
  | succ =>
    rw [readFrom]
    split
    · rfl
    rename_i line opened
    obtain ⟨member, -, _, -⟩ := next_line_some s seen false pos line opened
    have inside := line_inside s seen line member
    omega

theorem read_from_fuel (fuel fuel' pos : Nat) (enough : s.length - pos ≤ fuel) (enough' : s.length - pos ≤ fuel') :
    readFrom s seen fuel pos = readFrom s seen fuel' pos := by
  induction fuel generalizing fuel' pos with
  | zero => rw [read_past s seen _ pos (by omega), read_past s seen _ pos (by omega)]
  | succ _ ih =>
    cases fuel' with
    | zero => rw [read_past s seen _ pos (by omega), read_past s seen _ pos (by omega)]
    | succ fuel' =>
      rw [readFrom, readFrom]
      split
      · rfl
      rename_i line opened
      obtain ⟨member, -, _, -⟩ := next_line_some s seen false pos line opened
      have ahead := block_ahead s seen line member
      have inside := line_inside s seen line member
      rw [ih fuel' _ (by omega) (by omega)]

theorem reading_none (absent : nextLine s seen false pos = none) : reading s seen pos = s.drop pos := by
  rw [reading]
  cases s.length - pos with
  | zero => rfl
  | succ => rw [readFrom, absent]

theorem reading_some (line) (opened : nextLine s seen false pos = some line) :
    reading s seen pos = slice s pos line.start ++ marker ++ reading s seen (blockStop s seen line) := by
  obtain ⟨member, -, _, -⟩ := next_line_some s seen false pos line opened
  have ahead := block_ahead s seen line member
  have inside := line_inside s seen line member
  obtain ⟨fuel, size⟩ := Nat.exists_eq_add_one_of_ne_zero (by omega : s.length - pos ≠ 0)
  rw [reading, size, readFrom, opened]
  simp only [reading]
  rw [read_from_fuel s seen fuel (s.length - blockStop s seen line) _ (by omega) le_rfl]

end

section

variable (s : Bytes) (seen : Seen s)

theorem seen_every (line) (member : line ∈ seen.lines) : line ∈ (everyLine s).lines := mem_every (seen.stand line member)

inductive Agrees : Nat → Prop
  | rest (pos : Nat) : nextLine s (everyLine s) false pos = none → Agrees pos
  | block (pos : Nat) (line : Armor) : nextLine s (everyLine s) false pos = some line → line ∈ seen.lines →
      (∀ last, nextLine s (everyLine s) true line.stop = some last → last ∈ seen.lines) →
      Agrees (blockStop s (everyLine s) line) → Agrees pos
  | missed (pos : Nat) (line last : Armor) : nextLine s (everyLine s) false pos = some line → line ∈ seen.lines →
      nextLine s (everyLine s) true line.stop = some last → last ∉ seen.lines →
      reading s (everyLine s) last.stop = reading s seen (blockStop s seen line) → Agrees pos

theorem next_line_seen (isEnd) (pos : Nat) (line) (next : nextLine s (everyLine s) isEnd pos = some line)
    (member : line ∈ seen.lines) : nextLine s seen isEnd pos = some line := by
  obtain ⟨-, kind, behind, least⟩ := next_line_some s (everyLine s) isEnd pos line next
  apply next_line_of s seen isEnd pos line member kind behind
  exact fun other inside => least other (seen_every s seen other inside)

theorem next_line_unseen (isEnd) (pos : Nat) (absent : nextLine s (everyLine s) isEnd pos = none) : nextLine s seen isEnd pos = none := by
  cases next : nextLine s seen isEnd pos with
  | none => rfl
  | some line =>
    obtain ⟨member, kind, _, -⟩ := next_line_some s seen isEnd pos line next
    have before := next_line_none s (everyLine s) isEnd pos absent line (seen_every s seen line member) kind
    omega

theorem block_stop_seen (line) (closed : ∀ last, nextLine s (everyLine s) true line.stop = some last → last ∈ seen.lines) :
    blockStop s seen line = blockStop s (everyLine s) line := by
  cases next : nextLine s (everyLine s) true line.stop with
  | none => rw [blockStop, blockStop, next, next_line_unseen s seen true _ next]
  | some last => rw [blockStop, blockStop, next, next_line_seen s seen true _ last next (closed last next)]

variable (pos : Nat)

theorem agrees_same (agrees : Agrees s seen pos) : reading s (everyLine s) pos = reading s seen pos := by
  induction agrees with
  | rest pos absent => rw [reading_none s _ pos absent, reading_none s _ pos (next_line_unseen s seen false pos absent)]
  | block pos line opened member closed _ ih =>
    rw [reading_some s _ pos line opened, reading_some s _ pos line (next_line_seen s seen false pos line opened member), ih,
      block_stop_seen s seen line closed]
  | missed pos line last opened member closed _ same =>
    have stop : blockStop s (everyLine s) line = last.stop := by rw [blockStop, closed]
    rw [reading_some s _ pos line opened, reading_some s _ pos line (next_line_seen s seen false pos line opened member), stop, same]

theorem line_dash (p : Nat) (line) (here : armorAt s p = some line) : s[p]? = some '-'.toUInt8 := by
  obtain ⟨-, -, -, found⟩ := armor_at_some here
  have opens : ∀ keyword, Committed.Opens (Sanitize.line keyword) fun b => b == '-'.toUInt8 := fun keyword => Committed.opens_seq _ _ _ dashes_opens
  have head : (s.drop p).head?.any (fun b => b == '-'.toUInt8) = true := by
    split at found
    · exact opens endWord _ (by rw [← endLine, found]; rfl)
    · exact opens beginWord _ (by rw [← beginLine, found]; rfl)
  rw [head?_drop] at head
  cases byte : s[p]? with
  | none => simp [byte] at head
  | some =>
    rw [byte, any_some, beq_iff_eq] at head
    rw [head]

theorem slice_byte (stop k : Nat) (inside : pos + k < stop) : (slice s pos stop)[k]? = s[pos + k]? := by
  rw [slice, getElem?_take_of_lt (by omega), getElem?_drop]

theorem unseen_begin_differs (line) (opened : nextLine s (everyLine s) false pos = some line)
    (unseen : line ∉ seen.lines) : reading s (everyLine s) pos ≠ reading s seen pos := by
  obtain ⟨every, _, _, least⟩ := next_line_some s (everyLine s) false pos line opened
  have here := (everyLine s).stand line every
  have inside := line_inside s _ line every
  have dash := line_dash s line.start line here
  have at' : pos + (line.start - pos) = line.start := by omega
  have masked : (reading s (everyLine s) pos)[line.start - pos]? = some 42 := by
    have size : (slice s pos line.start).length = line.start - pos := by
      rw [slice, length_take, length_drop]
      omega
    rw [reading_some s _ pos line opened, append_assoc, getElem?_append_right (by omega), size, Nat.sub_self]
    rfl
  have kept : (reading s seen pos)[line.start - pos]? = some '-'.toUInt8 := by
    cases next : nextLine s seen false pos with
    | none => rw [reading_none s seen pos next, getElem?_drop, at', dash]
    | some other =>
      obtain ⟨member, kind', behind', -⟩ := next_line_some s seen false pos other next
      have later := least other (seen_every s seen other member) kind' behind'
      have different : other.start ≠ line.start := by
        intro same
        have stands := seen.stand other member
        rw [same, here] at stands
        cases stands
        exact unseen member
      have byte := slice_byte s pos other.start (line.start - pos) (by omega)
      rw [at', dash] at byte
      have size : line.start - pos < (slice s pos other.start).length := (List.getElem?_eq_some_iff.mp byte).1
      rw [reading_some s seen pos other next, append_assoc, getElem?_append_left size, byte]
  intro same
  rw [same, kept] at masked
  cases masked

theorem same_agrees (same : reading s (everyLine s) pos = reading s seen pos) : Agrees s seen pos := by
  -- on what is left behind the position
  induction left : s.length - pos using Nat.strong_induction_on generalizing pos with
  | _ _ ih =>
    subst left
    cases opened : nextLine s (everyLine s) false pos with
    | none => exact .rest pos opened
    | some line =>
      by_cases member : line ∈ seen.lines
      · obtain ⟨every, -, _, -⟩ := next_line_some s (everyLine s) false pos line opened
        have ahead := block_ahead s (everyLine s) line every
        have inside := line_inside s _ line every
        rw [reading_some s _ pos line opened, reading_some s _ pos line (next_line_seen s seen false pos line opened member)] at same
        have rest := append_cancel_left same
        by_cases closed : ∀ last, nextLine s (everyLine s) true line.stop = some last → last ∈ seen.lines
        · rw [block_stop_seen s seen line closed] at rest
          exact .block pos line opened member closed (ih _ (by omega) _ rest rfl)
        obtain ⟨last, missed⟩ := not_forall.mp closed
        obtain ⟨closed, unseen⟩ := Classical.not_imp.mp missed
        have stop : blockStop s (everyLine s) line = last.stop := by rw [blockStop, closed]
        rw [stop] at rest
        exact .missed pos line last opened member closed unseen rest
      · exact absurd same (unseen_begin_differs s seen pos line opened member)

end

variable (s : Bytes)

theorem next_ends_head (lines) : (nextEnds lines).head?.join = (lines.find? fun line => line.isEnd).map Armor.stop := by
  cases lines with
  | nil => rfl
  | cons line lines =>
    rw [nextEnds, head?_cons, join_some, find?_cons]
    cases line.isEnd with
    | true => rfl
    | false => exact next_ends_head lines

theorem walk_reading (before lines) (shape : armorLines s = before ++ lines) (pos : Nat) (out)
    (passed : ∀ line ∈ before, line.isEnd = true ∨ line.start < pos) :
    redactBlocksFrom s (lines.zip (nextEnds lines)) pos out = out ++ reading s (foundLines s) pos := by
  induction lines generalizing before pos out with
  | nil =>
    have absent : nextLine s (foundLines s) false pos = none := by
      apply find?_eq_none.mpr
      intro line member
      change line ∈ armorLines s at member
      rw [shape, append_nil] at member
      rcases passed line member with isEnd | earlier
      · simp [isEnd]
      · simp [Nat.not_le.mpr earlier]
    rw [reading_none s _ pos absent]
    rfl
  | cons line lines ih =>
    have shape' : armorLines s = (before ++ [line]) ++ lines := by rw [shape, append_assoc, singleton_append]
    simp only [nextEnds, zip_cons_cons, redactBlocksFrom]
    split
    · rename_i skipped
      apply ih (before ++ [line]) shape'
      intro other member
      rcases mem_append.mp member with earlier | here
      · exact passed other earlier
      · rw [mem_singleton.mp here]
        exact skipped.symm
    · rename_i taken
      obtain ⟨behind, isBegin⟩ := not_or.mp taken
      rw [Bool.not_eq_true] at isBegin
      have apart := found_lines_apart s
      rw [shape, pairwise_append] at apart
      obtain ⟨-, here, across⟩ := apart
      have member : line ∈ (foundLines s).lines := by
        change line ∈ armorLines s
        rw [shape]
        simp
      have ahead := line_inside s _ line member
      have earlier (other : Armor) (old : other ∈ before) : other.start < line.start := by
        have stops := across other old line mem_cons_self
        have inside := line_inside s (foundLines s) other (by change other ∈ armorLines s; rw [shape]; simp [old])
        omega
      have opened : nextLine s (foundLines s) false pos = some line := by
        change (armorLines s).find? _ = some line
        rw [shape, find?_append, find?_eq_none.mpr, none_or, find?_cons_of_pos]
        · simp [isBegin, Nat.not_lt.mp behind]
        intro other old
        rcases passed other old with isEnd | passed
        · simp [isEnd]
        · simp [Nat.not_le.mpr passed]
      have closed : nextLine s (foundLines s) true line.stop = lines.find? fun line => line.isEnd := by
        change (armorLines s).find? _ = _
        rw [shape, find?_append, find?_eq_none.mpr, none_or, find?_cons_of_neg (by simp [isBegin])]
        · apply find?_congr
          intro other later
          simp [(pairwise_cons.mp here).1 other later]
        · intro other old
          have before := earlier other old
          simp [Nat.not_le.mpr (lt_trans before ahead.1)]
      have next : (if line.isEnd = true then some line.stop else (nextEnds lines).head?.join) =
          (nextLine s (foundLines s) true line.stop).map Armor.stop := by
        rw [isBegin, closed, next_ends_head]
        rfl
      have later := block_ahead s _ line member
      have step := ih (before ++ [line]) shape' (blockStop s (foundLines s) line) (out ++ slice s pos line.start ++ marker) (fun other passedOne => by
          right
          rcases mem_append.mp passedOne with old | here
          · have before := earlier other old
            omega
          · rw [mem_singleton.mp here]
            exact later)
      rw [append_assoc, append_assoc, ← reading_some s _ pos line opened] at step
      rw [next, ← step, blockStop, ← append_assoc]
      cases nextLine s (foundLines s) true line.stop with
      | none | some => rfl

theorem code_reading : redactPemBlocks s = reading s (foundLines s) 0 := by
  have walk := walk_reading s [] (armorLines s) rfl 0 [] (fun line member => absurd member not_mem_nil)
  rw [redactPemBlocks]
  split
  · rename_i none
    rw [none] at walk
    exact walk
  · exact walk

theorem find_range {B : Type} {f : Nat → Option B} {n : Nat} {b : B} (found : (List.range n).findSome? f = some b) :
    ∃ k < n, f k = some b ∧ ∀ j < k, f j = none := by
  induction n with
  | zero => cases found
  | succ n ih =>
    rw [range_succ, findSome?_append, or_eq_some_iff] at found
    rcases found with before | ⟨none, here⟩
    · obtain ⟨k, inside, found, clear⟩ := ih before
      exact ⟨k, Nat.lt_succ_of_lt inside, found, clear⟩
    · rw [findSome?_singleton] at here
      exact ⟨n, Nat.lt_succ_self n, here, fun j below => findSome?_eq_none_iff.mp none j (mem_range.mpr below)⟩

theorem block_length_le (after) : blockLength after ≤ after.length := by
  rw [blockLength]
  split
  · rename_i n found
    obtain ⟨_, _, here, -⟩ := find_range found
    obtain ⟨m, closed, rfl⟩ := map_eq_some_iff.mp here
    have reach := endLine.reach _ m closed
    rw [length_drop] at reach
    omega
  · exact width_le isBodyByte after

variable (pos : Nat)

theorem begin_every (n : Nat) (opened : beginLine.length (s.drop pos) = some n) : ⟨pos, pos + n, false⟩ ∈ (everyLine s).lines :=
  mem_every (armor_begin opened)

theorem block_length_stop (line) (member : line ∈ (everyLine s).lines) :
    line.stop + blockLength (s.drop line.stop) = blockStop s (everyLine s) line := by
  have inside := (line_inside s _ line member).2
  rw [blockStop, blockLength]
  have shape (other : Armor) (listed : other ∈ (everyLine s).lines) (isEnd : other.isEnd = true) :
      endLine.length (s.drop other.start) = some (other.stop - other.start) := by
    obtain ⟨-, -, -, found⟩ := armor_at_some ((everyLine s).stand other listed)
    rwa [if_pos isEnd] at found
  cases search : (List.range ((s.drop line.stop).length + 1)).findSome? fun k => (endLine.length ((s.drop line.stop).drop k)).map (k + ·) with
  | none =>
    have absent : nextLine s (everyLine s) true line.stop = none := by
      cases next : nextLine s (everyLine s) true line.stop with
      | none => rfl
      | some last =>
        obtain ⟨listed, isEnd, behind, -⟩ := next_line_some s _ true _ last next
        have bound := line_inside s _ last listed
        have fails := findSome?_eq_none_iff.mp search (last.start - line.stop) (mem_range.mpr (by rw [length_drop]; omega))
        rw [drop_drop, Nat.add_sub_cancel' behind, shape last listed isEnd] at fails
        cases fails
    rw [absent]
    simp only [headless_width]
  | some n =>
    obtain ⟨k, -, here, clear⟩ := find_range search
    obtain ⟨m, closed, rfl⟩ := map_eq_some_iff.mp here
    rw [drop_drop] at closed
    have next : nextLine s (everyLine s) true line.stop = some ⟨line.stop + k, line.stop + k + m, true⟩ := by
      apply next_line_of s _ true _ _ (mem_every (armor_end closed)) rfl (Nat.le_add_right _ _)
      intro other listed isEnd behind
      by_contra earlier
      have none := clear (other.start - line.stop) (by simp only at earlier; omega)
      rw [drop_drop, Nat.add_sub_cancel' behind, shape other listed isEnd] at none
      cases none
    rw [next]
    simp only [add_assoc]

theorem block_real : Real legacyPemBlockPattern := real_least _ (by decide)

theorem block_blind : Blind legacyPemBlockPattern := by
  intro _ _ _
  rw [match_block, match_block]

theorem no_begin (absent : nextLine s (everyLine s) false pos = none) (p : Nat) : beginLine.length ((s.drop pos).drop p) = none := by
  rw [drop_drop]
  cases opened : beginLine.length (s.drop (pos + p)) with
  | none => rfl
  | some n =>
    have before := next_line_none s _ false pos absent _ (begin_every s _ n opened) rfl
    simp only at before
    omega

theorem no_begin_before (line) (opened : nextLine s (everyLine s) false pos = some line) (p : Nat)
    (before : pos + p < line.start) : beginLine.length ((s.drop pos).drop p) = none := by
  rw [drop_drop]
  obtain ⟨-, -, -, least⟩ := next_line_some s _ false pos line opened
  cases earlier : beginLine.length (s.drop (pos + p)) with
  | none => rfl
  | some n =>
    have first := least _ (begin_every s _ n earlier) rfl (Nat.le_add_right _ _)
    simp only at first
    omega

-- Replacing every match of the pattern is the reading by every line.
theorem legacy_reading : legacyRedactPemBlocks (s.drop pos) = reading s (everyLine s) pos := by
  induction left : s.length - pos using Nat.strong_induction_on generalizing pos with
  | _ _ ih =>
    subst left
    cases opened : nextLine s (everyLine s) false pos with
    | none =>
      rw [reading_none s _ pos opened, legacyRedactPemBlocks, replace_none _ block_real]
      apply find_clear
      intro q _
      rw [matchIn, match_block, no_begin s pos opened q]
      rfl
    | some line =>
      obtain ⟨member, isBegin, behind, -⟩ := next_line_some s _ false pos line opened
      obtain ⟨-, ahead, _, found⟩ := armor_at_some ((everyLine s).stand line member)
      have later := block_ahead s _ line member
      rw [isBegin, if_neg Bool.false_ne_true] at found
      have stop := block_length_stop s line member
      have bound := block_length_le (s.drop line.stop)
      rw [length_drop] at bound
      have here : (s.drop pos).drop (line.start - pos) = s.drop line.start := by
        rw [drop_drop, Nat.add_sub_cancel' behind]
      have after : (s.drop line.start).drop (line.stop - line.start) = s.drop line.stop := by
        rw [drop_drop, Nat.add_sub_cancel' (le_of_lt ahead)]
      have first := find_found _ block_real (s.drop pos) (line.start - pos)
        ⟨(s.drop line.start).take (line.stop - line.start + blockLength (s.drop line.stop)), []⟩
        (by rw [length_drop]; omega)
        (fun q before => by
          rw [matchIn, match_block, no_begin_before s pos line opened q (by omega)]
          rfl)
        (by
          rw [matchIn, match_block, here, found, map_some, after])
      have size : ((s.drop line.start).take (line.stop - line.start + blockLength (s.drop line.stop))).length =
          line.stop - line.start + blockLength (s.drop line.stop) := by
        rw [length_take, length_drop]
        omega
      have rest : (s.drop pos).drop (line.start - pos + (line.stop - line.start + blockLength (s.drop line.stop))) =
          s.drop (blockStop s (everyLine s) line) := by
        rw [drop_drop, ← stop]
        congr 1
        omega
      have tail := ih _ (by omega) (blockStop s (everyLine s) line) rfl
      rw [legacyRedactPemBlocks] at tail
      rw [reading_some s _ pos line opened, legacyRedactPemBlocks, replace_first _ block_real block_blind _ _ _ _ first, size, rest, tail, slice]

theorem line_unmarked (text) (n : Nat) (opened : beginLine.length text = some n) : (42 : UInt8) ∉ text.take n := by
  have found : beginLine.pattern.matchAt none text = some ⟨text.take n, []⟩ := by
    rw [Committed.match_committed, opened, map_some]
  exact match_without [42] beginLine.pattern (by decide +kernel) none text _ found 42 mem_cons_self

theorem no_begin_left (p : Nat) : beginLine.length ((reading s (everyLine s) pos).drop p) = none := by
  induction left : s.length - pos using Nat.strong_induction_on generalizing pos p with
  | _ _ ih =>
    subst left
    cases next : nextLine s (everyLine s) false pos with
    | none =>
      rw [reading_none s _ pos next]
      exact no_begin s pos next p
    | some line =>
      obtain ⟨member, -, _, -⟩ := next_line_some s _ false pos line next
      have inside := line_inside s _ line member
      have later := block_ahead s _ line member
      have gap : (slice s pos line.start).length = line.start - pos := by
        rw [slice, length_take, length_drop]
        omega
      cases opened : beginLine.length ((reading s (everyLine s) pos).drop p) with
      | none => rfl
      | some n =>
        rw [reading_some s _ pos line next, append_assoc] at opened
        have tail := ih (s.length - blockStop s (everyLine s) line) (by omega) (blockStop s (everyLine s) line)
        generalize reading s (everyLine s) (blockStop s (everyLine s) line) = rest at opened tail
        have positive := (beginLine.reach _ n opened).1
        rcases Nat.lt_or_ge (line.start - pos) (p + n) with _ | _
        · rcases Nat.lt_or_ge p (line.start - pos + 4) with _ | _
          · -- the match would hold a byte of the marker
            have star (k : Nat) (inside : k < 4) : (marker ++ rest)[k]? = some 42 := by
              rw [getElem?_append_left inside]
              revert k
              decide
            have byte : (slice s pos line.start ++ (marker ++ rest))[max p (line.start - pos)]? = some 42 := by
              rw [getElem?_append_right (by omega), gap]
              exact star _ (by omega)
            refine absurd (mem_of_getElem? (i := max p (line.start - pos) - p) ?_) (line_unmarked _ n opened)
            rw [getElem?_take_of_lt (by omega), getElem?_drop, Nat.add_sub_cancel' (le_max_left _ _), byte]
          · have size : (slice s pos line.start ++ marker).length = line.start - pos + 4 := by
              rw [length_append, gap]
              rfl
            rw [← append_assoc, drop_append, drop_eq_nil_of_le (by omega), nil_append, tail _ rfl] at opened
            cases opened
        · -- the match would stand in the text in front of the block
          have same : ((s.drop pos).drop p).take n = ((slice s pos line.start ++ (marker ++ rest)).drop p).take n := by
            rw [drop_append, take_append_of_le_length (by rw [length_drop]; omega), slice, drop_take, take_take, min_eq_left (by omega)]
          have earlier := beginLine.own _ _ n opened same
          rw [no_begin_before s pos line next p (by omega)] at earlier
          cases earlier

end LibCommons.Sanitize
