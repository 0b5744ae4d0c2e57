import LibCommons.Idempotency.Wire
import LibCommons.Lib.Keyset
import LibCommons.Go.Strings

namespace LibCommons.NetHttp

open Json (Value)
open Idempotency (storeStruct storeString fieldNamed foldName)

def cursorDirectionNext : String := "next"
def cursorDirectionPrev : String := "prev"

inductive SortDir where
  | asc
  | desc
deriving DecidableEq, Repr

inductive Operator where
  | greater
  | less
deriving DecidableEq, Repr

inductive CursorError where
  | errInvalidCursor (detail : String)
  | errInvalidCursorDirection
deriving DecidableEq, Repr

structure Cursor where
  id : String := ""
  direction : String := ""
deriving DecidableEq, Repr

structure CursorPagination where
  next : String := ""
  prev : String := ""
deriving DecidableEq, Repr

def cursorMembers (cursor : Cursor) : List (String × Value) := [("id", .str cursor.id), ("direction", .str cursor.direction)]

inductive CursorField where
  | id
  | direction

def cursorFields : List (String × CursorField) := [("id", .id), ("direction", .direction)]

def storeCursorField (cursor : Cursor) (member : String × Value) : Option Cursor :=
  match fieldNamed cursorFields member.1 with
  | none => some cursor
  | some .id => (storeString cursor.id member.2).map fun text => { cursor with id := text }
  | some .direction => (storeString cursor.direction member.2).map fun text => { cursor with direction := text }

def unmarshalCursor (bytes : Bytes) : Option Cursor := (Json.parseBytes bytes).bind (storeStruct {} storeCursorField)

-- base64.StdEncoding.EncodeToString of a JSON object
def token (members : List (String × Value)) : String := String.ofList (Bytes.base64Encode (Json.renderBytes (.obj members)))

def encodeCursor (cursor : Cursor) : Except CursorError String :=
  if cursor.id = "" then .error (.errInvalidCursor "")
  else if cursor.direction ≠ cursorDirectionNext ∧ cursor.direction ≠ cursorDirectionPrev then
    .error .errInvalidCursorDirection
  else .ok (token (cursorMembers cursor))

def decodeCursor (cursor : String) : Except CursorError Cursor :=
  match Bytes.base64Decode cursor.toList with
  | none => .error (.errInvalidCursor "decode failed")
  | some decoded =>
    match unmarshalCursor decoded with
    | none => .error (.errInvalidCursor "unmarshal failed")
    | some cur =>
      if cur.id = "" then .error (.errInvalidCursor "missing id")
      else if cur.direction ≠ cursorDirectionNext ∧ cur.direction ≠ cursorDirectionPrev then
        .error .errInvalidCursorDirection
      else .ok cur

-- unicode.ToUpper as far as a comparison with ASCII text can tell.
def toUpper (c : Char) : Char :=
  if 'a' ≤ c ∧ c ≤ 'z' then c.toUpper
  else if c = 'ſ' then 'S'
  else if c = 'ı' then 'I'
  else c

def validateSortDirection (dir : String) : SortDir :=
  if (Go.trimSpace dir).toList.map toUpper = "DESC".toList then .desc else .asc

def cursorDirectionRules (requestedSortDirection cursorDirection : String) : Except CursorError (Operator × SortDir) :=
  let order := validateSortDirection requestedSortDirection
  if cursorDirection = cursorDirectionNext then
    if order = .asc then .ok (.greater, .asc) else .ok (.less, .desc)
  else if cursorDirection = cursorDirectionPrev then
    if order = .asc then .ok (.less, .desc) else .ok (.greater, .asc)
  else .error .errInvalidCursorDirection

-- The swaps of commons.Reverse.
def reverse {R : Type} (items : List R) : List R := items.toArray.reverse.toList

def paginateRecords {R : Type} (_isFirstPage hasPagination : Bool) (cursorDirection : String) (items : List R) (limit : Int) : List R :=
  let limit := if !hasPagination then (items.length : Int) else limit
  let limit := if limit < 0 then 0 else limit
  let limit := if limit > items.length then (items.length : Int) else limit
  let paginated := items.take limit.toNat
  if cursorDirection = cursorDirectionPrev then reverse paginated else paginated

def calculateCursor (isFirstPage hasPagination : Bool) (cursorDirection firstItemID lastItemID : String) :
    Except CursorError CursorPagination :=
  if cursorDirection ≠ cursorDirectionNext ∧ cursorDirection ≠ cursorDirectionPrev then
    .error .errInvalidCursorDirection
  else do
    let isPrev : Bool := cursorDirection = cursorDirectionPrev
    let next ← if isPrev || hasPagination then encodeCursor ⟨lastItemID, cursorDirectionNext⟩ else .ok ""
    let prev ← if !isFirstPage && (!isPrev || hasPagination) then encodeCursor ⟨firstItemID, cursorDirectionPrev⟩
      else .ok ""
    .ok ⟨next, prev⟩

structure SortCursor where
  sortColumn : String := ""
  sortValue : String := ""
  id : String := ""
  pointsNext : Bool := false
deriving DecidableEq, Repr

def sortCursorMembers (cursor : SortCursor) : List (String × Value) :=
  [("sc", .str cursor.sortColumn), ("sv", .str cursor.sortValue), ("i", .str cursor.id), ("pn", .bool cursor.pointsNext)]

inductive SortCursorField where
  | sortColumn
  | sortValue
  | id
  | pointsNext

def sortCursorFields : List (String × SortCursorField) := [("sc", .sortColumn), ("sv", .sortValue), ("i", .id), ("pn", .pointsNext)]

def storeBool (current : Bool) : Value → Option Bool
  | .bool flag => some flag
  | .null => some current
  | _ => none

def storeSortCursorField (cursor : SortCursor) (member : String × Value) : Option SortCursor :=
  match fieldNamed sortCursorFields member.1 with
  | none => some cursor
  | some .sortColumn => (storeString cursor.sortColumn member.2).map fun text => { cursor with sortColumn := text }
  | some .sortValue => (storeString cursor.sortValue member.2).map fun text => { cursor with sortValue := text }
  | some .id => (storeString cursor.id member.2).map fun text => { cursor with id := text }
  | some .pointsNext => (storeBool cursor.pointsNext member.2).map fun flag => { cursor with pointsNext := flag }

def unmarshalSortCursor (bytes : Bytes) : Option SortCursor := (Json.parseBytes bytes).bind (storeStruct {} storeSortCursorField)

def identifierStart (c : Char) : Bool := ('A' ≤ c && c ≤ 'Z') || ('a' ≤ c && c ≤ 'z') || c == '_'

def sortColumnPattern (column : String) : Bool :=
  match column.toList with
  | [] => false
  | c :: rest => identifierStart c && rest.all fun c => identifierStart c || ('0' ≤ c && c ≤ '9')

def encodeSortCursor (sortColumn sortValue id : String) (pointsNext : Bool) : Except CursorError String :=
  if id = "" then .error (.errInvalidCursor "id must not be empty")
  else if sortColumn = "" then .error (.errInvalidCursor "sort column must not be empty")
  else .ok (token (sortCursorMembers ⟨sortColumn, sortValue, id, pointsNext⟩))

def decodeSortCursor (cursor : String) : Except CursorError SortCursor :=
  match Bytes.base64Decode cursor.toList with
  | none => .error (.errInvalidCursor "decode failed")
  | some decoded =>
    match unmarshalSortCursor decoded with
    | none => .error (.errInvalidCursor "unmarshal failed")
    | some sc =>
      if sc.id = "" then .error (.errInvalidCursor "missing id")
      else if sc.sortColumn = "" ∨ sortColumnPattern sc.sortColumn = false then
        .error (.errInvalidCursor "invalid sort column")
      else .ok sc

def isAsc (requestedDir : String) : Bool := foldName requestedDir == foldName "ASC"

def sortCursorDirection (requestedDir : String) (pointsNext : Bool) : SortDir × Operator :=
  if pointsNext then
    if isAsc requestedDir then (.asc, .greater) else (.desc, .less)
  else if isAsc requestedDir then (.desc, .less)
  else (.asc, .greater)

def calculateSortCursorPagination (isFirstPage hasPagination pointsNext : Bool)
    (sortColumn firstSortValue firstID lastSortValue lastID : String) : Except CursorError (String × String) := do
  let next ← if !pointsNext || hasPagination then encodeSortCursor sortColumn lastSortValue lastID true else .ok ""
  let prev ← if !isFirstPage && (pointsNext || hasPagination) then
      encodeSortCursor sortColumn firstSortValue firstID false
    else .ok ""
  .ok (next, prev)

variable {R K : Type}

-- The caller's query: the rows on one side of the position, in the order asked for.
def selectRows (key : R → K) (before : K → K → Prop) [DecidableRel before] (operator : Operator) (order : SortDir)
    (position : Option K) (rows : List R) : List R :=
  let found := rows.filter fun row =>
    match position, operator with
    | none, _ => true
    | some here, .greater => decide (before here (key row))
    | some here, .less => decide (before (key row) here)
  match order with
  | .asc => found
  | .desc => found.reverse

def cursorOf (cursor : String) : Except CursorError Cursor :=
  if cursor = "" then .ok { direction := cursorDirectionNext } else decodeCursor cursor

def cursorPage (id : R → String) (isFirstPage hasPagination : Bool) (direction : String) (page : List R) :
    Except CursorError (Keyset.Answer R String) :=
  match page.head?, page.getLast? with
  | some first, some last => do
      let pagination ← calculateCursor isFirstPage hasPagination direction (id first) (id last)
      .ok ⟨page, pagination.next, pagination.prev⟩
  | _, _ => .ok ⟨page, "", ""⟩

-- limit+1 rows past the cursor; hasPagination when more than limit came back.
def listPage (id : R → String) (before : String → String → Prop) [DecidableRel before] (rows : List R)
    (sortOrder : String) (limit : Nat) (cursor : String) : Except CursorError (Keyset.Answer R String) := do
  let cur ← cursorOf cursor
  let rule ← cursorDirectionRules sortOrder cur.direction
  let position := if cursor = "" then none else some cur.id
  let fetched := (selectRows id before rule.1 rule.2 position rows).take (limit + 1)
  let hasPagination : Bool := fetched.length > limit
  let isFirstPage : Bool := cursor = ""
  cursorPage id isFirstPage hasPagination cur.direction (paginateRecords isFirstPage hasPagination cur.direction fetched limit)

def sortCursorOf (cursor : String) : Except CursorError SortCursor :=
  if cursor = "" then .ok { pointsNext := true } else decodeSortCursor cursor

def sortCursorPage (sortValue id : R → String) (sortColumn : String) (isFirstPage hasPagination pointsNext : Bool)
    (page : List R) : Except CursorError (Keyset.Answer R String) :=
  match page.head?, page.getLast? with
  | some first, some last => do
      let pagination ← calculateSortCursorPagination isFirstPage hasPagination pointsNext sortColumn
        (sortValue first) (id first) (sortValue last) (id last)
      .ok ⟨page, pagination.1, pagination.2⟩
  | _, _ => .ok ⟨page, "", ""⟩

-- The same caller over the composite key of a sort column and the id.
def listSortPage (sortValue id : R → String) (before : String × String → String × String → Prop) [DecidableRel before]
    (sortColumn : String) (rows : List R) (requestedDir : String) (limit : Nat) (cursor : String) :
    Except CursorError (Keyset.Answer R String) := do
  let cur ← sortCursorOf cursor
  let rule := sortCursorDirection requestedDir cur.pointsNext
  let position := if cursor = "" then none else some (cur.sortValue, cur.id)
  let fetched := (selectRows (fun row => (sortValue row, id row)) before rule.2 rule.1 position rows).take (limit + 1)
  let hasPagination : Bool := fetched.length > limit
  let isFirstPage : Bool := cursor = ""
  let direction := if cur.pointsNext then cursorDirectionNext else cursorDirectionPrev
  sortCursorPage sortValue id sortColumn isFirstPage hasPagination cur.pointsNext
    (paginateRecords isFirstPage hasPagination direction fetched limit)

end LibCommons.NetHttp
