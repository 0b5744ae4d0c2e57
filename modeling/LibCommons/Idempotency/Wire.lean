import LibCommons.Lib.Json

namespace LibCommons.Idempotency

open List Json

open Json (Value)

def keyStateProcessing : String := "processing"
def keyStateComplete : String := "complete"
def outcomeUnrecorded : String := "unrecorded"
def outcomeNotReplayable : String := "not-replayable"

structure StoreRecord where
  state : String := ""
  fingerprint : String := ""
  owner : String := ""
  response : Bytes := []
  outcome : String := ""
deriving DecidableEq, Repr

-- A Go map[string][]string. A nil value list and an empty one are both [].
abbrev Headers := AList fun _ : String => List String

structure CachedResponse where
  statusCode : Int := 0
  contentType : String := ""
  body : Bytes := []
  headers : Headers := ∅

-- encoding/json ignores case, and two characters outside ASCII fold to letters inside it.
def foldRune (c : Char) : Char :=
  if 'a' ≤ c ∧ c ≤ 'z' then c.toUpper
  else if c = 'ſ' then 'S'
  else if c = 'K' then 'K'
  else c

def foldName (name : String) : List Char := name.toList.map foldRune

def fieldNamed {F : Type} (fields : List (String × F)) (key : String) : Option F :=
  (fields.find? fun field => foldName field.1 == foldName key).map Prod.snd

-- Storing a document in a field, none where json.Unmarshal reports an error; null changes nothing.
def storeString (current : String) : Value → Option String
  | .str text => some text
  | .null => some current
  | _ => none

def storeInt (current : Int) : Value → Option Int
  | .num literal => parseInt64 literal
  | .null => some current
  | _ => none

def storeByte (current : UInt8) : Value → Option UInt8
  | .num literal =>
    if literal ≠ [] ∧ literal.all Char.isDigit ∧ Nat.ofDigitChars 10 literal 0 < 256 then
      some (UInt8.ofNat (Nat.ofDigitChars 10 literal 0))
    else none
  | .null => some current
  | _ => none

def storeBytes (current : Bytes) : Value → Option Bytes
  | .null => some []
  | .str text => Bytes.base64Decode text.toList
  | .arr items => items.zipIdx.mapM fun item => storeByte (current.getD item.2 0) item.1
  | _ => none

def storeStrings : Value → Option (List String)
  | .null => some []
  | .arr items => items.mapM (storeString "")
  | _ => none

def storeHeader (current : Headers) (member : String × Value) : Option Headers :=
  (storeStrings member.2).map fun values => current.insert member.1 values

def storeHeaders (current : Headers) : Value → Option Headers
  | .null => some ∅
  | .obj members => members.foldlM storeHeader current
  | _ => none

-- A key that names no field is skipped; a document that is not an object is an error unless null.
def storeStruct {S : Type} (zero : S) (storeField : S → String × Value → Option S) : Value → Option S
  | .obj members => members.foldlM storeField zero
  | .null => some zero
  | _ => none

inductive RecordField where
  | state
  | fingerprint
  | owner
  | response
  | outcome

def recordFields : List (String × RecordField) :=
  [("state", .state), ("fingerprint", .fingerprint), ("owner", .owner), ("response", .response), ("outcome", .outcome)]

variable (record : StoreRecord)

def storeRecordField (member : String × Value) : Option StoreRecord :=
  match fieldNamed recordFields member.1 with
  | none => some record
  | some .state => (storeString record.state member.2).map fun text => { record with state := text }
  | some .fingerprint => (storeString record.fingerprint member.2).map fun text => { record with fingerprint := text }
  | some .owner => (storeString record.owner member.2).map fun text => { record with owner := text }
  | some .response => (storeBytes record.response member.2).map fun bytes => { record with response := bytes }
  | some .outcome => (storeString record.outcome member.2).map fun text => { record with outcome := text }

def recordMembers : List (String × Value) :=
  [("state", .str record.state), ("fingerprint", .str record.fingerprint), ("owner", .str record.owner)] ++ (if record.response = [] then []
      else [("response", .str (String.ofList (Bytes.base64Encode record.response)))]) ++
    (if record.outcome = "" then [] else [("outcome", .str record.outcome)])

-- json.Marshal of a record, which cannot fail for these field types.
def recordBytes : Bytes := renderBytes (.obj (recordMembers record))

def marshalRecord : Option Bytes := some (recordBytes record)

def unmarshalRecord (bytes : Bytes) : Option StoreRecord := (parseBytes bytes).bind (storeStruct {} storeRecordField)

theorem unmarshal_record_bytes : unmarshalRecord (recordBytes record) = some record := by
  have parsed : parseBytes (recordBytes record) = some (.obj (recordMembers record)) := by
    refine parse_bytes_render ?_
    intro member present
    obtain ⟨text, found⟩ : ∃ text, member.2 = .str text := by
      unfold recordMembers at present
      split_ifs at present <;> simp at present <;> grind
    rw [found]
    trivial
  obtain ⟨state, fingerprint, owner, response, outcome⟩ := record
  rw [unmarshalRecord, parsed]
  by_cases none : response = [] <;> by_cases plain : outcome = "" <;>
    simp [storeStruct, recordMembers, none, plain, storeRecordField, storeString, storeBytes,
      Bytes.base64_round_trip, show fieldNamed recordFields "state" = some .state from rfl,
      show fieldNamed recordFields "fingerprint" = some .fingerprint from rfl,
      show fieldNamed recordFields "owner" = some .owner from rfl,
      show fieldNamed recordFields "response" = some .response from rfl,
      show fieldNamed recordFields "outcome" = some .outcome from rfl]

inductive ResponseField where
  | statusCode
  | contentType
  | body
  | headers

def responseFields : List (String × ResponseField) :=
  [("status_code", .statusCode), ("content_type", .contentType), ("body", .body), ("headers", .headers)]

variable (response : CachedResponse)

def storeResponseField (member : String × Value) : Option CachedResponse :=
  match fieldNamed responseFields member.1 with
  | none => some response
  | some .statusCode => (storeInt response.statusCode member.2).map fun code => { response with statusCode := code }
  | some .contentType => (storeString response.contentType member.2).map fun text => { response with contentType := text }
  | some .body => (storeBytes response.body member.2).map fun bytes => { response with body := bytes }
  | some .headers => (storeHeaders response.headers member.2).map fun headers => { response with headers := headers }

-- A nil slice is null. encoding/json writes a map in the order of its keys.
def headerMember (entry : Sigma fun _ : String => List String) : String × Value :=
  (entry.1, if entry.2 = [] then .null else .arr (entry.2.map .str))

def sortedEntries (headers : Headers) : List (Sigma fun _ : String => List String) :=
  headers.entries.insertionSort fun first second => first.1 ≤ second.1

def responseMembers : List (String × Value) :=
  [("status_code", .num (intLiteral response.statusCode)), ("content_type", .str response.contentType),
    ("body", if response.body = [] then .null else .str (String.ofList (Bytes.base64Encode response.body)))] ++
    (if response.headers.entries = [] then []
      else [("headers", .obj ((sortedEntries response.headers).map headerMember))])

def responseBytes : Bytes := renderBytes (.obj (responseMembers response))

def marshalResponse : Option Bytes := some (responseBytes response)

def unmarshalResponse (bytes : Bytes) : Option CachedResponse := (parseBytes bytes).bind (storeStruct {} storeResponseField)

theorem store_strings_text (values : List String) : (values.map Value.str).mapM (storeString "") = some values := by
  induction values with
  | nil => rfl
  | cons _ _ ih => simp [storeString, ih]

theorem store_header_member (current : Headers) (entry : Sigma fun _ : String => List String) :
    storeHeader current (headerMember entry) = some (current.insert entry.1 entry.2) := by
  by_cases removed : entry.2 = []
  · simp [storeHeader, headerMember, removed, storeStrings]
  · simp only [storeHeader, headerMember, if_neg removed, storeStrings, store_strings_text, Option.map_some]

theorem store_headers_entries (entries : List (Sigma fun _ : String => List String)) (current : Headers)
    (fresh : (entries ++ current.entries).NodupKeys) :
    ∃ final, (entries.map headerMember).foldlM storeHeader current = some final ∧ final.entries.Perm (entries ++ current.entries) := by
  induction entries generalizing current with
  | nil => exact ⟨current, rfl, .refl _⟩
  | cons entry _ ih =>
    rw [cons_append, nodupKeys_cons, keys_append, mem_append] at fresh
    have inserted : (current.insert entry.1 entry.2).entries = entry :: current.entries :=
      AList.entries_insert_of_notMem fun present => fresh.1 (.inr present)
    obtain ⟨final, stored, same⟩ := ih (current.insert entry.1 entry.2) (by
      rw [inserted, nodupKeys_middle, nodupKeys_cons, keys_append, mem_append]
      exact fresh)
    refine ⟨final, ?_, ?_⟩
    · rw [map_cons, foldlM_cons, store_header_member]
      exact stored
    · rw [inserted] at same
      exact same.trans perm_middle

theorem header_member_within (depth : Nat) (entry) : Within (depth + 1) (headerMember entry).2 := by
  unfold headerMember
  split
  · trivial
  · intro _ present
    obtain ⟨_, -, rfl⟩ := List.mem_map.mp present
    cases depth <;> trivial

theorem response_within : Within maxNestingDepth (.obj (responseMembers response)) := by
  intro _ present
  simp only [responseMembers, mem_append, mem_cons, not_mem_nil, or_false] at present
  obtain (rfl | rfl | rfl) | present := present
  · exact int_literal response.statusCode
  · trivial
  · split <;> trivial
  · split at present
    · cases present
    rw [mem_singleton] at present
    subst present
    intro _ listed
    obtain ⟨source, -, rfl⟩ := List.mem_map.mp listed
    exact header_member_within 9997 source

theorem field_named_status : fieldNamed responseFields "status_code" = some .statusCode := rfl

theorem field_named_content : fieldNamed responseFields "content_type" = some .contentType := rfl

theorem field_named_body : fieldNamed responseFields "body" = some .body := rfl

theorem field_named_headers : fieldNamed responseFields "headers" = some .headers := rfl

theorem unmarshal_response_bytes (low : -2 ^ 63 ≤ response.statusCode) (high : response.statusCode < 2 ^ 63) :
    ∃ headers, unmarshalResponse (responseBytes response) = some { response with headers := headers } ∧
      headers.entries.Perm response.headers.entries := by
  have parsed := parse_bytes_render (response_within response)
  obtain ⟨_, _, body, headers⟩ := response
  have sorted : (sortedEntries headers).Perm headers.entries := perm_insertionSort _ _
  obtain ⟨final, stored, same⟩ := store_headers_entries (sortedEntries headers) ∅ (by
    rw [AList.empty_entries, append_nil, perm_nodupKeys sorted]
    exact headers.nodupKeys)
  rw [AList.empty_entries, append_nil] at same
  have bodyStored : storeBytes [] (if body = [] then .null else .str (String.ofList (Bytes.base64Encode body))) = some body := by
    by_cases empty : body = []
    · rw [if_pos empty, storeBytes, empty]
    · rw [if_neg empty, storeBytes, String.toList_ofList, Bytes.base64_round_trip]
  rw [unmarshalResponse, responseBytes, parsed]
  by_cases none : headers.entries = []
  · refine ⟨∅, ?_, by rw [none]; exact .refl _⟩
    simp [storeStruct, responseMembers, none, storeResponseField, storeInt, storeString, bodyStored,
      parse_int_literal low high, field_named_status, field_named_content, field_named_body]
  refine ⟨final, ?_, same.trans sorted⟩
  simp [storeStruct, responseMembers, none, storeResponseField, storeInt, storeString, storeHeaders, bodyStored,
    stored, parse_int_literal low high, field_named_status, field_named_content, field_named_body,
    field_named_headers]

end LibCommons.Idempotency
