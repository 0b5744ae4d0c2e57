import LibCommons.Go.Strings
import LibCommons.Idempotency.Header

namespace LibCommons.Idempotency

open List MultiMap

open ResponseHeader (all set add del delCookie cookieKey managed contentType defaultContentType)

def isUncapturedHeader (name : String) : Bool :=
  name = "Content-Type" || name = "Content-Length" || name = "Transfer-Encoding" || name = idempotencyReplayed

-- The name of a Set-Cookie value, none where it is not shaped like a cookie.
def capturedCookieName (value : String) : Option String :=
  if '=' ∈ value.toList then some (Go.trimSpace (String.ofList (value.toList.takeWhile fun c => c ≠ '='))) else none

structure HeaderSnapshot where
  headers : Headers
  cookies : AList fun _ : String => String

inductive CaptureError where
  | responseTooLarge
  | marshal
  | encode
  | emptyEncodedResponse
deriving DecidableEq

-- The order in which range loops visit maps.
structure MapRange where
  order : Headers → List (Sigma fun _ : String => List String)
  visits : ∀ headers, (order headers).Perm headers.entries

section

variable {H : Type} [ResponseHeader H]

def snapshotStep (snapshot : HeaderSnapshot) (pair : String × String) : HeaderSnapshot :=
  if isUncapturedHeader pair.1 then snapshot
  else if pair.1 = headerSetCookie then
    match capturedCookieName pair.2 with
    | some name => { snapshot with cookies := snapshot.cookies.insert name pair.2 }
    | none => snapshot
  else { snapshot with headers := MultiMap.append snapshot.headers pair }

def snapshotResponseHeaders (header : H) : HeaderSnapshot := (all header).foldl snapshotStep { headers := ∅, cookies := ∅ }

variable (before : HeaderSnapshot)

-- A cookie is the handler's unless it was on the response before, as the last of its name.
def handlerCookie (value : String) : Bool :=
  match capturedCookieName value with
  | some name => (before.cookies.lookup name).getD "" ≠ value
  | none => true

structure LiveHeaders where
  live : Headers
  cookies : List String

def liveStep (state : LiveHeaders) (pair : String × String) : LiveHeaders :=
  if isUncapturedHeader pair.1 then state
  else if pair.1 = headerSetCookie then
    if handlerCookie before pair.2 then { state with cookies := state.cookies ++ [pair.2] } else state
  else { state with live := MultiMap.append state.live pair }

def liveHeaders (header : H) : LiveHeaders := (all header).foldl (liveStep before) { live := ∅, cookies := [] }

-- The names whose value lists differ; the second loop records those the handler removed.
def headerChanges (before live : Headers) : Headers :=
  before.entries.foldl (fun delta entry => if entry.1 ∉ live then delta.insert entry.1 [] else delta)
    (live.entries.foldl (fun delta entry =>
      if entry.2 ≠ (before.lookup entry.1).getD [] then delta.insert entry.1 entry.2 else delta) ∅)

def captureHeaderDelta (header : H) (before : HeaderSnapshot) : Headers :=
  let after := liveHeaders before header
  let delta := headerChanges before.headers after.live
  if after.cookies ≠ [] then delta.insert headerSetCookie after.cookies else delta

def maxInt : Nat := 2 ^ 63 - 1

variable (m : Middleware H)

def maxEncodedResponseBytes : Nat :=
  if m.maxBodyCache > maxInt / 2 then maxInt else m.maxBodyCache * 2

def cachedResponse (response : Response H) (before : HeaderSnapshot) : CachedResponse where
  statusCode := response.statusCode
  contentType := contentType response.header
  body := response.body
  headers := captureHeaderDelta response.header before

def captureResponse (seed : Nat) (response : Response H) (before : HeaderSnapshot) :
    Except CaptureError Bytes :=
  if response.body.length > m.maxBodyCache then .error .responseTooLarge
  else
    match marshalResponse (cachedResponse response before) with
    | none => .error .marshal
    | some plaintext =>
      match m.responseCodec.encode seed plaintext with
      | none => .error .encode
      | some encoded =>
        if encoded.length = 0 then .error .emptyEncodedResponse
        else if encoded.length > maxEncodedResponseBytes m then .error .responseTooLarge
        else .ok encoded

def clearCapturedHeader (header : H) (name : String) (values : List String) : H :=
  if name ≠ headerSetCookie then del header name
  else
    values.foldl (fun header value =>
      match capturedCookieName value with
      | some cookieName => delCookie header cookieName
      | none => header) header

def replayEntry (header : H) (entry : Sigma fun _ : String => List String) : H :=
  entry.2.foldl (fun header value => add header entry.1 value) (clearCapturedHeader header entry.1 entry.2)

def replayResponse (range : MapRange) (cached : CachedResponse) (response : Response H) : Response H where
  statusCode := cached.statusCode
  header := set ((range.order cached.headers).foldl replayEntry (set response.header idempotencyReplayed "true"))
    headerContentType cached.contentType
  body := cached.body

def replay (range : MapRange) (request : Request) (encoded : Bytes) (response : Response H) :
    Reply H :=
  if encoded.length = 0 ∨ encoded.length > maxEncodedResponseBytes m then
    respondPostHandlerStoreError m request response
  else
    match m.responseCodec.decode encoded with
    | none => respondPostHandlerStoreError m request response
    | some plaintext =>
      if plaintext.length = 0 ∨ plaintext.length > maxEncodedResponseBytes m then
        respondPostHandlerStoreError m request response
      else
        match unmarshalResponse plaintext with
        | none => respondPostHandlerStoreError m request response
        | some cached =>
          if cached.statusCode < 100 ∨ cached.statusCode > 599 ∨ cached.body.length > m.maxBodyCache then
            respondPostHandlerStoreError m request response
          else { answer := .replayed, response := replayResponse range cached response, err := none }

end

variable {H : Type} [ResponseHeader H]

def isOrdinary (name : String) : Bool := !isUncapturedHeader name && name ≠ headerSetCookie

def ordinaryPairs (header : H) : List (String × String) := (all header).filter fun pair => isOrdinary pair.1

theorem ordinary_values (header : H) (name : String) : valuesOf (ordinaryPairs header) name = if isOrdinary name then values header name else [] := by
  rw [ordinaryPairs, valuesOf, List.filter_filter]
  by_cases ordinary : isOrdinary name = true
  · rw [if_pos ordinary, values, valuesOf]
    congr 2
    funext pair
    by_cases same : pair.1 = name <;> simp [same, ordinary]
  rw [if_neg ordinary]
  simp only [map_eq_nil_iff, filter_eq_nil_iff]
  intro _ _ both
  simp only [Bool.and_eq_true, decide_eq_true_eq] at both
  rw [both.1] at both
  exact ordinary both.2

theorem cookie_captured : isUncapturedHeader headerSetCookie = false := by decide

theorem snapshot_headers (header : H) : (snapshotResponseHeaders header).headers = collect (ordinaryPairs header) := by
  have loop : ∀ (pairs : List (String × String)) (snapshot : HeaderSnapshot), (pairs.foldl snapshotStep snapshot).headers =
      (pairs.filter fun pair => isOrdinary pair.1).foldl MultiMap.append snapshot.headers := by
    intro pairs
    induction pairs with
    | nil => intro snapshot; rfl
    | cons pair _ ih =>
      intro _
      rw [foldl_cons, ih, snapshotStep]
      by_cases cookie : pair.1 = headerSetCookie
      · cases named : capturedCookieName pair.2 <;> simp [cookie, cookie_captured, isOrdinary]
      · by_cases uncaptured : isUncapturedHeader pair.1 = true <;> simp [uncaptured, cookie, isOrdinary]
  exact loop (all header) _

theorem live_headers (before : HeaderSnapshot) (header : H) : (liveHeaders before header).live = collect (ordinaryPairs header) ∧
      (liveHeaders before header).cookies = (values header headerSetCookie).filter (handlerCookie before) := by
  have loop : ∀ (pairs : List (String × String)) (state : LiveHeaders), (pairs.foldl (liveStep before) state).live =
        (pairs.filter fun pair => isOrdinary pair.1).foldl MultiMap.append state.live ∧
      (pairs.foldl (liveStep before) state).cookies = state.cookies ++ (valuesOf pairs headerSetCookie).filter (handlerCookie before) := by
    intro pairs
    induction pairs with
    | nil => intro state; simp [valuesOf]
    | cons pair _ ih =>
      intro state
      obtain ⟨live, cookies⟩ := ih (liveStep before state pair)
      rw [foldl_cons, live, cookies, liveStep]
      by_cases cookie : pair.1 = headerSetCookie
      · by_cases handler : handlerCookie before pair.2 = true <;> simp [cookie, cookie_captured, handler, isOrdinary, valuesOf]
      · by_cases uncaptured : isUncapturedHeader pair.1 = true <;> simp [uncaptured, cookie, isOrdinary, valuesOf]
  exact loop (all header) { live := ∅, cookies := [] }

theorem header_changes_lookup (before after : List (String × String)) (name : String) : (headerChanges (collect before) (collect after)).lookup name =
      if valuesOf after name = valuesOf before name then none
      else some (valuesOf after name) := by
  have old := lookup_collect before name
  have new := lookup_collect after name
  rw [AList.lookup] at old new
  rw [headerChanges, lookup_insert_loop (fun entry => entry.1 ∉ collect after) (fun _ => []) _ (collect before).nodupKeys, lookup_insert_loop
    (fun entry => entry.2 ≠ ((collect before).lookup entry.1).getD []) (fun entry => entry.2) _
    (collect after).nodupKeys, old, new]
  simp only [mem_collect, get_collect, AList.lookup_empty]
  by_cases gone : valuesOf after name = []
  · by_cases fresh : valuesOf before name = []
    · simp [gone, fresh]
    · simp [gone, fresh, Ne.symm fresh]
  · by_cases fresh : valuesOf before name = [] <;> simp [gone, fresh]

variable {name : String}

theorem cookies_apart (delta : Headers) (cookies : List String) (other : name ≠ headerSetCookie) :
    (if cookies ≠ [] then delta.insert headerSetCookie cookies else delta).lookup name = delta.lookup name := by
  split
  · exact AList.lookup_insert_ne other
  · rfl

theorem delta_lookup (before after : H) (name : String) : (captureHeaderDelta after (snapshotResponseHeaders before)).lookup name =
      if name = headerSetCookie then
        let cookies := (values after headerSetCookie).filter (handlerCookie (snapshotResponseHeaders before))
        if cookies = [] then none else some cookies
      else if isOrdinary name = true ∧ values after name ≠ values before name then some (values after name)
      else none := by
  obtain ⟨live, cookies⟩ := live_headers (snapshotResponseHeaders before) after
  have changes := header_changes_lookup (ordinaryPairs before) (ordinaryPairs after) name
  rw [ordinary_values, ordinary_values] at changes
  simp only [captureHeaderDelta, cookies, live, snapshot_headers]
  by_cases cookie : name = headerSetCookie
  · subst cookie
    by_cases none : (values after headerSetCookie).filter (handlerCookie (snapshotResponseHeaders before)) = []
    · rw [if_pos rfl, if_pos none, if_neg (by simp [none]), changes]
      simp [isOrdinary]
    · rw [if_pos rfl, if_neg none, if_pos none, AList.lookup_insert]
  · rw [cookies_apart _ _ cookie, changes, if_neg cookie]
    by_cases ordinary : isOrdinary name = true
    · by_cases same : values after name = values before name <;> simp [ordinary, same]
    · simp [ordinary]

theorem snapshot_cookie {header : H} {value : String}
    (found : (snapshotResponseHeaders header).cookies.lookup name = some value) : value ∈ values header headerSetCookie := by
  rw [snapshotResponseHeaders] at found
  rw [values]
  generalize all header = pairs at found ⊢
  induction pairs using List.reverseRecOn with
  | nil => cases found
  | append_singleton _ _ ih =>
    rw [foldl_append, foldl_cons, foldl_nil, snapshotStep] at found
    rw [values_of_concat]
    refine mem_append.mpr ?_
    split_ifs at found with uncaptured cookie
    · exact .inl (ih found)
    · split at found
      · rename_i cookieName shaped
        by_cases same : name = cookieName
        · subst same
          rw [AList.lookup_insert, Option.some.injEq] at found
          exact .inr (by simp [cookie, found])
        · rw [AList.lookup_insert_ne same] at found
          exact .inl (ih found)
      · exact .inl (ih found)
    · exact .inl (ih found)

end LibCommons.Idempotency
