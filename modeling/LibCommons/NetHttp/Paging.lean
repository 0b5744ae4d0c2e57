import LibCommons.NetHttp.Cursor

namespace LibCommons.NetHttp

open List Json Keyset Idempotency

section

theorem field_id : fieldNamed cursorFields "id" = some .id := rfl

theorem field_direction : fieldNamed cursorFields "direction" = some .direction := rfl

theorem field_sort_column : fieldNamed sortCursorFields "sc" = some .sortColumn := rfl

theorem field_sort_value : fieldNamed sortCursorFields "sv" = some .sortValue := rfl

theorem field_sort_id : fieldNamed sortCursorFields "i" = some .id := rfl

theorem field_points_next : fieldNamed sortCursorFields "pn" = some .pointsNext := rfl

theorem token_bytes (members) : Bytes.base64Decode (token members).toList = some (renderBytes (.obj members)) := by
  rw [token, String.toList_ofList, Bytes.base64_round_trip]

theorem token_not_blank (members) : token members ≠ "" := by
  intro blank
  have bytes := token_bytes members
  rw [blank] at bytes
  have empty : renderBytes (.obj members) = [] := (Option.some.inj bytes).symm
  have text := congrArg Bytes.runes empty
  rw [renderBytes, Bytes.runes_utf8] at text
  cases members <;> simp [render, Bytes.runes, Bytes.runesFrom] at text

theorem unmarshal_cursor (cursor) : unmarshalCursor (renderBytes (.obj (cursorMembers cursor))) = some cursor := by
  have parsed : parseBytes (renderBytes (.obj (cursorMembers cursor))) = some (.obj (cursorMembers cursor)) := by
    apply parse_bytes_render
    intro member present
    simp only [cursorMembers, mem_cons, not_mem_nil, or_false] at present
    rcases present with rfl | rfl <;> trivial
  rw [unmarshalCursor, parsed]
  simp [storeStruct, cursorMembers, storeCursorField, storeString, field_id, field_direction]

theorem unmarshal_sort_cursor (cursor) : unmarshalSortCursor (renderBytes (.obj (sortCursorMembers cursor))) = some cursor := by
  have parsed : parseBytes (renderBytes (.obj (sortCursorMembers cursor))) = some (.obj (sortCursorMembers cursor)) := by
    apply parse_bytes_render
    intro member present
    simp only [sortCursorMembers, mem_cons, not_mem_nil, or_false] at present
    rcases present with rfl | rfl | rfl | rfl <;> trivial
  rw [unmarshalSortCursor, parsed]
  simp [storeStruct, sortCursorMembers, storeSortCursorField, storeString, storeBool,
    field_sort_column, field_sort_value, field_sort_id, field_points_next]

variable (pointsNext : Bool)

def cursorDirection : String := if pointsNext then cursorDirectionNext else cursorDirectionPrev

theorem direction_known : ¬ (cursorDirection pointsNext ≠ cursorDirectionNext ∧ cursorDirection pointsNext ≠ cursorDirectionPrev) := by
  cases pointsNext <;> decide

variable {id : String}

theorem encode_cursor (named : id ≠ "") :
    encodeCursor ⟨id, cursorDirection pointsNext⟩ = .ok (token (cursorMembers ⟨id, cursorDirection pointsNext⟩)) := by
  rw [encodeCursor, if_neg named, if_neg (direction_known pointsNext)]

theorem decode_cursor (id pointsNext) (named : id ≠ "") :
    decodeCursor (token (cursorMembers ⟨id, cursorDirection pointsNext⟩)) = .ok ⟨id, cursorDirection pointsNext⟩ := by
  simp only [decodeCursor, token_bytes, unmarshal_cursor, if_neg named, if_neg (direction_known pointsNext)]

variable {column : String}

theorem encode_sort_cursor (value pointsNext) (named : id ≠ "") (given : column ≠ "") :
    encodeSortCursor column value id pointsNext = .ok (token (sortCursorMembers ⟨column, value, id, pointsNext⟩)) := by
  rw [encodeSortCursor, if_neg named, if_neg given]

theorem pattern_not_blank (pattern : sortColumnPattern column = true) : column ≠ "" := by
  rintro rfl
  cases pattern

theorem decode_sort_cursor (value pointsNext) (named : id ≠ "") (pattern : sortColumnPattern column = true) :
    decodeSortCursor (token (sortCursorMembers ⟨column, value, id, pointsNext⟩)) = .ok ⟨column, value, id, pointsNext⟩ := by
  have given := pattern_not_blank pattern
  simp only [decodeSortCursor, token_bytes, unmarshal_sort_cursor, if_neg named, given, pattern, Bool.true_eq_false, or_self, if_false]

end

section

variable {R K : Type}

def rules : SortDir → Bool → Operator × SortDir
  | .asc, true => (.greater, .asc)
  | .desc, true => (.less, .desc)
  | .asc, false => (.less, .desc)
  | .desc, false => (.greater, .asc)

def listed (dir : SortDir) (rows : List R) : List R :=
  match dir with
  | .asc => rows
  | .desc => rows.reverse

def assemble (next prev : R → String) (isFirstPage hasPagination pointsNext : Bool) (page : List R) : Answer R String where
  page := page
  next := if !pointsNext || hasPagination then tokenOf "" next page.getLast? else ""
  prev := if !isFirstPage && (pointsNext || hasPagination) then tokenOf "" prev page.head? else ""

def fetch (key : R → K) (before : K → K → Prop) [DecidableRel before] (dir : SortDir) (rows : List R) (limit : Nat)
    (pointsNext : Bool) (position : Option K) : List R :=
  (selectRows key before (rules dir pointsNext).1 (rules dir pointsNext).2 position rows).take (limit + 1)

def serve (key : R → K) (before : K → K → Prop) [DecidableRel before] (dir : SortDir) (rows : List R) (limit : Nat)
    (next prev : R → String) (pointsNext : Bool) (position : Option K) : Answer R String :=
  let fetched := fetch key before dir rows limit pointsNext position
  let hasPagination : Bool := fetched.length > limit
  assemble next prev position.isNone hasPagination pointsNext
    (paginateRecords position.isNone hasPagination (cursorDirection pointsNext) fetched limit)

theorem reverse_eq (items : List R) : reverse items = items.reverse := by simp [reverse]

def oriented (pointsNext : Bool) (rows : List R) : List R := if pointsNext then rows else rows.reverse

theorem paginate_eq (isFirstPage hasPagination pointsNext : Bool) (items : List R) (limit : Nat) :
    paginateRecords isFirstPage hasPagination (cursorDirection pointsNext) items limit =
      oriented pointsNext (items.take (if hasPagination then limit else items.length)) := by
  have bounded : ∀ n : Nat, items.take (if (n : Int) > items.length then (items.length : Int) else n).toNat = items.take n := by
    intro n
    by_cases long : (n : Int) > items.length
    · rw [if_pos long, Int.toNat_natCast, take_of_length_le le_rfl, take_of_length_le (by omega)]
    · rw [if_neg long, Int.toNat_natCast]
  have turned : ∀ rows : List R, (if cursorDirection pointsNext = cursorDirectionPrev then reverse rows else rows) = oriented pointsNext rows := by
    intro rows
    cases pointsNext with
    | true => rfl
    | false => exact reverse_eq rows
  have positive : ∀ n : Nat, ¬ ((n : Int) < 0) := fun n => by omega
  cases hasPagination with
  | true =>
    simp only [paginateRecords, Bool.not_true, Bool.false_eq_true, if_false, if_neg (positive limit), turned, bounded, if_true]
  | false =>
    simp only [paginateRecords, Bool.not_false, if_true, if_neg (positive items.length), turned, bounded, Bool.false_eq_true, if_false]

theorem paginate_fetched (isFirstPage pointsNext : Bool) (rows : List R) (limit : Nat) :
    paginateRecords isFirstPage (decide ((rows.take (limit + 1)).length > limit)) (cursorDirection pointsNext)
      (rows.take (limit + 1)) limit = oriented pointsNext (rows.take limit) := by
  rw [paginate_eq]
  congr 1
  have width := length_take (i := limit + 1) (l := rows)
  by_cases more : (rows.take (limit + 1)).length > limit
  · rw [if_pos (decide_eq_true more), take_take, min_eq_left (Nat.le_succ limit)]
  · rw [if_neg (by simpa using more), take_length, take_of_length_le (by omega), take_of_length_le (by omega)]

variable (key : R → K) (before : K → K → Prop) [DecidableRel before]

theorem select_all (operator dir rows) : selectRows key before operator dir none rows = listed dir rows := by
  cases dir <;> simp [selectRows, listed]

section

variable (asymmetric : ∀ x y, before x y → ¬ before y x) (dir : SortDir) (rows : List R)
  (ordered : rows.Pairwise fun x y => before (key x) (key y))

include asymmetric ordered

theorem select_next (front back) (row : R) (shape : listed dir rows = front ++ row :: back) :
    selectRows key before (rules dir true).1 (rules dir true).2 (some (key row)) rows = back := by
  cases dir with
  | asc =>
    obtain rfl : rows = front ++ row :: back := shape
    exact filter_behind key before asymmetric front back row ordered
  | desc =>
    obtain rfl : rows = back.reverse ++ row :: front.reverse := by
      rw [← reverse_reverse rows, show rows.reverse = front ++ row :: back from shape]
      simp
    have kept := filter_ahead key before asymmetric back.reverse front.reverse row ordered
    simp only [selectRows, rules, kept, reverse_reverse]

theorem select_prev (front back) (row : R) (shape : listed dir rows = front ++ row :: back) :
    selectRows key before (rules dir false).1 (rules dir false).2 (some (key row)) rows = front.reverse := by
  cases dir with
  | asc =>
    obtain rfl : rows = front ++ row :: back := shape
    exact congrArg List.reverse (filter_ahead key before asymmetric front back row ordered)
  | desc =>
    obtain rfl : rows = back.reverse ++ row :: front.reverse := by
      rw [← reverse_reverse rows, show rows.reverse = front ++ row :: back from shape]
      simp
    have kept := filter_behind key before asymmetric back.reverse front.reverse row ordered
    simp only [selectRows, rules, kept]

end

variable (dir : SortDir) (rows : List R) (limit : Nat) (next prev : R → String)

theorem serve_eq (pointsNext : Bool) (position : Option K) (found : List R)
    (fetched : fetch key before dir rows limit pointsNext position = found.take (limit + 1)) :
    serve key before dir rows limit next prev pointsNext position =
      assemble next prev position.isNone (decide (limit < found.length)) pointsNext (oriented pointsNext (found.take limit)) := by
  have more : (found.take (limit + 1)).length > limit ↔ limit < found.length := by
    rw [length_take]
    omega
  simp only [serve, fetched, paginate_fetched]
  rw [decide_eq_decide.mpr more]

theorem serve_first : serve key before dir rows limit next prev true none = answerAt (listed dir rows) limit "" next prev 0 := by
  have fetched : fetch key before dir rows limit true none = (listed dir rows).take (limit + 1) := by
    have order : (rules dir true).2 = dir := by cases dir <;> rfl
    rw [fetch, order, select_all]
  rw [serve_eq key before dir rows limit next prev true none _ fetched]
  simp [assemble, answerAt, oriented, page]

theorem served_rows (isFirstPage hasPagination pointsNext position) (row : R)
    (member : row ∈ paginateRecords isFirstPage hasPagination (cursorDirection pointsNext)
      (fetch key before dir rows limit pointsNext position) limit) : row ∈ rows := by
  have fetched : row ∈ fetch key before dir rows limit pointsNext position := by
    rw [paginate_eq, oriented] at member
    split at member
    · exact mem_of_mem_take member
    · exact mem_of_mem_take (mem_reverse.mp member)
  have selected := mem_of_mem_take fetched
  cases order : (rules dir pointsNext).2 with
  | asc =>
    simp only [selectRows, order] at selected
    exact mem_of_mem_filter selected
  | desc =>
    simp only [selectRows, order] at selected
    exact mem_of_mem_filter (mem_reverse.mp selected)

section

variable (asymmetric : ∀ x y, before x y → ¬ before y x) (ordered : rows.Pairwise fun x y => before (key x) (key y))
  (positive : 0 < limit)

include asymmetric ordered positive

theorem serve_next (k : Nat) (row : R) (more : (k + 1) * limit < (listed dir rows).length)
    (last : (page (listed dir rows) limit k).getLast? = some row) :
    serve key before dir rows limit next prev true (some (key row)) = answerAt (listed dir rows) limit "" next prev (k + 1) := by
  have width : 0 < (k + 1) * limit := Nat.mul_pos k.succ_pos positive
  have place := split_at_row (listed dir rows) _ row ((page_last _ limit k positive more).symm.trans last)
  rw [Nat.sub_add_cancel width] at place
  have fetched : fetch key before dir rows limit true (some (key row)) = ((listed dir rows).drop ((k + 1) * limit)).take (limit + 1) := by
    rw [fetch, select_next key before asymmetric dir rows ordered _ _ row place]
  have has : limit < ((listed dir rows).drop ((k + 1) * limit)).length ↔ (k + 1 + 1) * limit < (listed dir rows).length := by
    rw [length_drop, Nat.succ_mul (k + 1)]
    omega
  rw [serve_eq key before dir rows limit next prev true _ _ fetched]
  simp only [has]
  simp [assemble, answerAt, oriented, page]

theorem serve_prev (k : Nat) (row : R) (more : (k + 1) * limit < (listed dir rows).length)
    (head : (page (listed dir rows) limit (k + 1)).head? = some row) :
    serve key before dir rows limit next prev false (some (key row)) = answerAt (listed dir rows) limit "" next prev k := by
  have place := split_at_row (listed dir rows) _ row ((page_head _ limit (k + 1) positive).symm.trans head)
  have fetched : fetch key before dir rows limit false (some (key row)) = ((listed dir rows).take ((k + 1) * limit)).reverse.take (limit + 1) := by
    rw [fetch, select_prev key before asymmetric dir rows ordered _ _ row place]
  have size : ((listed dir rows).take ((k + 1) * limit)).length = k * limit + limit := by
    rw [length_take, Nat.succ_mul] at *
    omega
  have has : limit < ((listed dir rows).take ((k + 1) * limit)).reverse.length ↔ 0 < k := by
    rw [length_reverse, size, lt_add_iff_pos_left, Nat.mul_pos_iff_of_pos_right positive]
  have page : (((listed dir rows).take ((k + 1) * limit)).reverse.take limit).reverse = page (listed dir rows) limit k := by
    rw [take_reverse, reverse_reverse, size, Nat.add_sub_cancel, drop_take, page, Nat.succ_mul, Nat.add_sub_cancel_left]
  rw [serve_eq key before dir rows limit next prev false _ _ fetched]
  simp only [has]
  simp [assemble, answerAt, oriented, page, more]

theorem serve_serves (request) (first : request "" = some (serve key before dir rows limit next prev true none))
    (forth : ∀ row ∈ rows, next row ≠ "" ∧ request (next row) = some (serve key before dir rows limit next prev true (some (key row))))
    (back : ∀ row ∈ rows, prev row ≠ "" ∧ request (prev row) = some (serve key before dir rows limit next prev false (some (key row)))) :
    Serves (listed dir rows) limit "" next prev request := by
  have inside : ∀ k row, row ∈ page (listed dir rows) limit k → row ∈ rows := by
    intro k row member
    have found := mem_of_mem_drop (mem_of_mem_take member)
    cases dir with
    | asc => exact found
    | desc => exact mem_reverse.mp found
  constructor
  · rw [first, serve_first]
  · intro k row more last
    obtain ⟨given, answered⟩ := forth row (inside k row (mem_of_getLast? last))
    rw [serve_next key before dir rows limit next prev asymmetric ordered positive k row more last] at answered
    exact ⟨given, answered⟩
  · intro k row more head
    obtain ⟨given, answered⟩ := back row (inside (k + 1) row (mem_of_head? head))
    rw [serve_prev key before dir rows limit next prev asymmetric ordered positive k row more head] at answered
    exact ⟨given, answered⟩

end

end

section

variable {R : Type}

def nextToken (id : R → String) (row : R) : String := token (cursorMembers ⟨id row, cursorDirection true⟩)

def prevToken (id : R → String) (row : R) : String := token (cursorMembers ⟨id row, cursorDirection false⟩)

theorem direction_rules (sortOrder pointsNext) :
    cursorDirectionRules sortOrder (cursorDirection pointsNext) = .ok (rules (validateSortDirection sortOrder) pointsNext) := by
  have apart : cursorDirectionPrev ≠ cursorDirectionNext := by decide
  cases pointsNext with
  | true => cases order : validateSortDirection sortOrder <;> simp [cursorDirectionRules, cursorDirection, order, rules]
  | false => cases order : validateSortDirection sortOrder <;> simp [cursorDirectionRules, cursorDirection, order, rules, apart]

variable {id : R → String} {first last : R}

theorem calculate_cursor (isFirstPage hasPagination pointsNext) (namedFirst : id first ≠ "") (namedLast : id last ≠ "") :
    calculateCursor isFirstPage hasPagination (cursorDirection pointsNext) (id first) (id last) =
      .ok ⟨if !pointsNext || hasPagination then nextToken id last else "",
        if !isFirstPage && (pointsNext || hasPagination) then prevToken id first else ""⟩ := by
  have next : encodeCursor ⟨id last, cursorDirectionNext⟩ = .ok (nextToken id last) := encode_cursor true namedLast
  have prev : encodeCursor ⟨id first, cursorDirectionPrev⟩ = .ok (prevToken id first) := encode_cursor false namedFirst
  have backward : decide (cursorDirection pointsNext = cursorDirectionPrev) = !pointsNext := by
    cases pointsNext <;> decide
  rw [calculateCursor, if_neg (direction_known pointsNext)]
  simp only [next, prev, backward, Bool.not_not]
  cases !pointsNext || hasPagination <;> cases !isFirstPage && (pointsNext || hasPagination) <;> rfl

variable {page : List R}

theorem cursor_page (isFirstPage hasPagination pointsNext) (named : ∀ row ∈ page, id row ≠ "") :
    cursorPage id isFirstPage hasPagination (cursorDirection pointsNext) page =
      .ok (assemble (nextToken id) (prevToken id) isFirstPage hasPagination pointsNext page) := by
  rw [cursorPage, assemble]
  cases head : page.head? with
  | none =>
    obtain rfl := head?_eq_none_iff.mp head
    simp [tokenOf]
  | some first =>
    cases tail : page.getLast? with
    | none =>
      obtain rfl := getLast?_eq_none_iff.mp tail
      cases head
    | some last =>
      have ends := calculate_cursor isFirstPage hasPagination pointsNext (named first (mem_of_head? head)) (named last (mem_of_getLast? tail))
      simp only [ends, tokenOf, bind, Except.bind]

theorem list_page_serve (id : R → String) (before : String → String → Prop) [DecidableRel before] (rows : List R)
    (sortOrder : String) (limit : Nat) (named : ∀ row ∈ rows, id row ≠ "") (cursor : String) (cur : Cursor)
    (pointsNext : Bool) (direction : cur.direction = cursorDirection pointsNext) (read : cursorOf cursor = .ok cur) :
    listPage id before rows sortOrder limit cursor =
      .ok (serve id before (validateSortDirection sortOrder) rows limit (nextToken id) (prevToken id) pointsNext
        (if cursor = "" then none else some cur.id)) := by
  have start : decide (cursor = "") = (if cursor = "" then none else some cur.id : Option String).isNone := by
    by_cases blank : cursor = "" <;> simp [blank]
  rw [listPage, read]
  simp only [bind, Except.bind, direction, direction_rules, start]
  apply cursor_page
  intro row member
  exact named row (served_rows id before _ rows limit _ _ pointsNext _ row member)

variable {rows : List R} {limit : Nat}

theorem list_page_serves {before} [DecidableRel before] (sortOrder) (positive : 0 < limit)
    (named : ∀ row ∈ rows, id row ≠ "") (asymmetric : ∀ x y, before x y → ¬ before y x)
    (ordered : rows.Pairwise fun x y => before (id x) (id y)) :
    Serves (listed (validateSortDirection sortOrder) rows) limit "" (nextToken id) (prevToken id)
      (fun cursor => (listPage id before rows sortOrder limit cursor).toOption) := by
  have follow : ∀ row ∈ rows, ∀ pointsNext, token (cursorMembers ⟨id row, cursorDirection pointsNext⟩) ≠ "" ∧
      listPage id before rows sortOrder limit (token (cursorMembers ⟨id row, cursorDirection pointsNext⟩)) =
        .ok (serve id before (validateSortDirection sortOrder) rows limit (nextToken id) (prevToken id) pointsNext (some (id row))) := by
    intro row member pointsNext
    have given := token_not_blank (cursorMembers ⟨id row, cursorDirection pointsNext⟩)
    have read : cursorOf (token (cursorMembers ⟨id row, cursorDirection pointsNext⟩)) = .ok ⟨id row, cursorDirection pointsNext⟩ := by
      rw [cursorOf, if_neg given, decode_cursor _ _ (named row member)]
    have page := list_page_serve id before rows sortOrder limit named _ _ pointsNext rfl read
    rw [if_neg given] at page
    exact ⟨given, page⟩
  have first := list_page_serve id before rows sortOrder limit named "" { direction := cursorDirectionNext } true rfl rfl
  rw [if_pos rfl] at first
  apply serve_serves id before _ rows limit _ _ asymmetric ordered positive
  · exact congrArg Except.toOption first
  · exact fun row member => ⟨(follow row member true).1, congrArg Except.toOption (follow row member true).2⟩
  · exact fun row member => ⟨(follow row member false).1, congrArg Except.toOption (follow row member false).2⟩

def nextSortToken (column : String) (sortValue id : R → String) (row : R) : String :=
  token (sortCursorMembers ⟨column, sortValue row, id row, true⟩)

def prevSortToken (column : String) (sortValue id : R → String) (row : R) : String :=
  token (sortCursorMembers ⟨column, sortValue row, id row, false⟩)

variable (requestedDir : String)

def sortDir : SortDir := if isAsc requestedDir then .asc else .desc

theorem sort_direction_rules (pointsNext) : sortCursorDirection requestedDir pointsNext =
      ((rules (sortDir requestedDir) pointsNext).2, (rules (sortDir requestedDir) pointsNext).1) := by
  cases asc : isAsc requestedDir <;> cases pointsNext <;> simp [sortCursorDirection, sortDir, asc, rules]

variable {column : String} (sortValue : R → String)

theorem calculate_sort_cursor (given : column ≠ "") (isFirstPage hasPagination pointsNext) (namedFirst : id first ≠ "") (namedLast : id last ≠ "") :
    calculateSortCursorPagination isFirstPage hasPagination pointsNext column (sortValue first) (id first) (sortValue last) (id last) =
      .ok (if !pointsNext || hasPagination then nextSortToken column sortValue id last else "",
        if !isFirstPage && (pointsNext || hasPagination) then prevSortToken column sortValue id first else "") := by
  have next := encode_sort_cursor (sortValue last) true namedLast given
  have prev := encode_sort_cursor (sortValue first) false namedFirst given
  rw [calculateSortCursorPagination, next, prev]
  cases !pointsNext || hasPagination <;> cases !isFirstPage && (pointsNext || hasPagination) <;> rfl

theorem sort_cursor_page (given : column ≠ "") (isFirstPage hasPagination pointsNext) (named : ∀ row ∈ page, id row ≠ "") :
    sortCursorPage sortValue id column isFirstPage hasPagination pointsNext page =
      .ok (assemble (nextSortToken column sortValue id) (prevSortToken column sortValue id) isFirstPage hasPagination pointsNext page) := by
  rw [sortCursorPage, assemble]
  cases head : page.head? with
  | none =>
    obtain rfl := head?_eq_none_iff.mp head
    simp [tokenOf]
  | some first =>
    cases tail : page.getLast? with
    | none =>
      obtain rfl := getLast?_eq_none_iff.mp tail
      cases head
    | some last =>
      have ends := calculate_sort_cursor sortValue given isFirstPage hasPagination pointsNext
        (named first (mem_of_head? head)) (named last (mem_of_getLast? tail))
      simp only [ends, tokenOf, bind, Except.bind]

theorem list_sort_page_serve (id before) [DecidableRel before] (column rows requestedDir) (limit : Nat) (given : column ≠ "")
    (named : ∀ row ∈ rows, id row ≠ "") (cursor cur) (read : sortCursorOf cursor = .ok cur) :
    listSortPage sortValue id before column rows requestedDir limit cursor =
      .ok (serve (fun row => (sortValue row, id row)) before (sortDir requestedDir) rows limit
        (nextSortToken column sortValue id) (prevSortToken column sortValue id) cur.pointsNext
        (if cursor = "" then none else some (cur.sortValue, cur.id))) := by
  have start : decide (cursor = "") = (if cursor = "" then none else some (cur.sortValue, cur.id) : Option (String × String)).isNone := by
    by_cases blank : cursor = "" <;> simp [blank]
  rw [listSortPage, read]
  simp only [bind, Except.bind, sort_direction_rules, start]
  apply sort_cursor_page sortValue given
  intro row member
  exact named row (served_rows _ before _ rows limit _ _ cur.pointsNext _ row member)

theorem list_sort_page_serves {sortValue} {before} [DecidableRel before]
    (positive : 0 < limit) (pattern : sortColumnPattern column = true) (named : ∀ row ∈ rows, id row ≠ "")
    (asymmetric : ∀ x y, before x y → ¬ before y x)
    (ordered : rows.Pairwise fun x y => before (sortValue x, id x) (sortValue y, id y)) :
    Serves (listed (sortDir requestedDir) rows) limit "" (nextSortToken column sortValue id) (prevSortToken column sortValue id)
      (fun cursor => (listSortPage sortValue id before column rows requestedDir limit cursor).toOption) := by
  have column' := pattern_not_blank pattern
  have follow : ∀ row ∈ rows, ∀ pointsNext, token (sortCursorMembers ⟨column, sortValue row, id row, pointsNext⟩) ≠ "" ∧
      listSortPage sortValue id before column rows requestedDir limit (token (sortCursorMembers ⟨column, sortValue row, id row, pointsNext⟩)) =
        .ok (serve (fun row => (sortValue row, id row)) before (sortDir requestedDir) rows limit
          (nextSortToken column sortValue id) (prevSortToken column sortValue id) pointsNext
          (some (sortValue row, id row))) := by
    intro row member pointsNext
    have given := token_not_blank (sortCursorMembers ⟨column, sortValue row, id row, pointsNext⟩)
    have read : sortCursorOf (token (sortCursorMembers ⟨column, sortValue row, id row, pointsNext⟩)) =
        .ok ⟨column, sortValue row, id row, pointsNext⟩ := by
      rw [sortCursorOf, if_neg given, decode_sort_cursor _ _ (named row member) pattern]
    have page := list_sort_page_serve sortValue id before column rows requestedDir limit column' named _ _ read
    rw [if_neg given] at page
    exact ⟨given, page⟩
  have first := list_sort_page_serve sortValue id before column rows requestedDir limit column' named "" _ rfl
  rw [if_pos rfl] at first
  apply serve_serves _ before _ rows limit _ _ asymmetric ordered positive
  · exact congrArg Except.toOption first
  · exact fun row member => ⟨(follow row member true).1, congrArg Except.toOption (follow row member true).2⟩
  · exact fun row member => ⟨(follow row member false).1, congrArg Except.toOption (follow row member false).2⟩

end

theorem cursors_page_both_ways {R : Type} (id sortValue : R → String) (rows : List R) (requested column : String)
    (limit : Nat) (positive : 1 ≤ limit) (named : ∀ row ∈ rows, id row ≠ "") :
    (∀ (before : String → String → Prop) [DecidableRel before], (∀ x y, before x y → ¬ before y x) →
      (rows.Pairwise fun x y => before (id x) (id y)) →
      PagedBothWays "" (fun cursor => (listPage id before rows requested limit cursor).toOption)
        (listed (validateSortDirection requested) rows) limit) ∧
    (∀ (before : String × String → String × String → Prop) [DecidableRel before], sortColumnPattern column = true →
      (∀ x y, before x y → ¬ before y x) → (rows.Pairwise fun x y => before (sortValue x, id x) (sortValue y, id y)) →
      PagedBothWays "" (fun cursor => (listSortPage sortValue id before column rows requested limit cursor).toOption)
        (listed (if isAsc requested then .asc else .desc) rows) limit) := by
  constructor
  · intro _ _ asymmetric ordered
    exact serves_paged positive (list_page_serves requested positive named asymmetric ordered)
  · intro _ _ pattern asymmetric ordered
    exact serves_paged positive (list_sort_page_serves requested positive pattern named asymmetric ordered)

theorem three_records_page_both_ways :
    (1 ≤ 2 ∧ ∀ row ∈ ["a", "b", "c"], row ≠ "") ∧
      PagedBothWays "" (fun cursor => (listPage (fun row => row) (fun x y => x < y) ["a", "b", "c"] "DESC" 2 cursor).toOption)
        ["c", "b", "a"] 2 := by
  have named : ∀ row ∈ ["a", "b", "c"], row ≠ "" := by simp
  have ordered : (["a", "b", "c"] : List String).Pairwise fun x y => x < y := by decide
  have paged := (cursors_page_both_ways (fun row => row) (fun row => row) ["a", "b", "c"] "DESC" "name" 2 (by decide)
    named).1 (fun x y => x < y) (fun x y => lt_asymm) ordered
  have desc : validateSortDirection "DESC" = .desc := by decide
  rw [desc] at paged
  exact ⟨⟨by decide, named⟩, paged⟩

variable {column value id : String} {pointsNext : Bool} {minted : String}

theorem decode_sort_refused (value pointsNext) (named : id ≠ "") (refused : sortColumnPattern column = false) :
    decodeSortCursor (token (sortCursorMembers ⟨column, value, id, pointsNext⟩)) = .error (.errInvalidCursor "invalid sort column") := by
  simp only [decodeSortCursor, token_bytes, unmarshal_sort_cursor, if_neg named, refused, or_true, if_true]

variable (encoded : encodeSortCursor column value id pointsNext = .ok minted)

include encoded

theorem encode_sort_ok : id ≠ "" ∧ minted = token (sortCursorMembers ⟨column, value, id, pointsNext⟩) := by
  unfold encodeSortCursor at encoded
  split_ifs at encoded with unnamed blank
  exact ⟨unnamed, (Except.ok.inj encoded).symm⟩

theorem minted_decodes_iff : decodeSortCursor minted = .ok ⟨column, value, id, pointsNext⟩ ↔ sortColumnPattern column = true := by
  obtain ⟨named, rfl⟩ := encode_sort_ok encoded
  cases pattern : sortColumnPattern column with
  | true => simp [decode_sort_cursor value pointsNext named pattern]
  | false => simp [decode_sort_refused value pointsNext named pattern]

omit encoded

theorem emitted_minted {isFirstPage hasPagination} {firstValue firstID lastValue lastID next prev}
    (emitted : calculateSortCursorPagination isFirstPage hasPagination pointsNext column firstValue firstID lastValue lastID = .ok (next, prev)) :
    (next ≠ "" → encodeSortCursor column lastValue lastID true = .ok next) ∧
      (prev ≠ "" → encodeSortCursor column firstValue firstID false = .ok prev) := by
  unfold calculateSortCursorPagination at emitted
  cases last : encodeSortCursor column lastValue lastID true <;> cases first : encodeSortCursor column firstValue firstID false <;>
    cases forth : !pointsNext || hasPagination <;> cases back : !isFirstPage && (pointsNext || hasPagination) <;>
    simp_all [bind, Except.bind]

-- EncodeSortCursor takes any column that is not empty, DecodeSortCursor only an identifier.
theorem sort_tokens_accepted_iff (column : String) :
    (∀ value id pointsNext minted, encodeSortCursor column value id pointsNext = .ok minted →
      (decodeSortCursor minted = .ok ⟨column, value, id, pointsNext⟩ ↔ sortColumnPattern column = true)) ∧
    (∀ isFirstPage hasPagination pointsNext firstValue firstID lastValue lastID next prev,
      calculateSortCursorPagination isFirstPage hasPagination pointsNext column firstValue firstID lastValue lastID =
        .ok (next, prev) →
      (next ≠ "" → (decodeSortCursor next = .ok ⟨column, lastValue, lastID, true⟩ ↔ sortColumnPattern column = true)) ∧
      (prev ≠ "" → (decodeSortCursor prev = .ok ⟨column, firstValue, firstID, false⟩ ↔ sortColumnPattern column = true))) := by
  refine ⟨?_, ?_⟩
  · intro _ _ _ _ encoded
    exact minted_decodes_iff encoded
  · intro _ _ _ _ _ _ _ _ _ emitted
    obtain ⟨forth, back⟩ := emitted_minted emitted
    exact ⟨fun some => minted_decodes_iff (forth some), fun some => minted_decodes_iff (back some)⟩

theorem dashed_column_not_accepted :
    ∃ minted, encodeSortCursor "created-at" "2024" "7" true = .ok minted ∧
      decodeSortCursor minted = .error (.errInvalidCursor "invalid sort column") :=
  ⟨_, rfl, decode_sort_refused "2024" true (by decide) (by decide)⟩

end LibCommons.NetHttp
