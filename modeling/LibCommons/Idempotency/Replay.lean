import LibCommons.Idempotency.Receipt

namespace LibCommons.Idempotency

open List

open ResponseHeader (all set add del delCookie cookieKey managed contentType defaultContentType)

section

variable {H : Type} [ResponseHeader H] [LawfulResponseHeader H]

open LawfulResponseHeader

omit [ResponseHeader H] [LawfulResponseHeader H] in
theorem ordinary_names (name) (ordinary : isOrdinary name = true) : name ≠ headerSetCookie ∧ name ≠ headerContentType := by
  constructor
  · rintro rfl
    cases ordinary
  · rintro rfl
    cases ordinary

variable {name other : String}

theorem add_all_other (added : List String) (header : H) (apart : other ≠ name) :
    values (added.foldl (fun header value => add header name value) header) other = values header other := by
  induction added generalizing header with
  | nil => rfl
  | cons value _ ih => rw [foldl_cons, ih, add_other header name value other apart]

theorem add_all_same (name) (ordinary : isOrdinary name = true) (unmanaged : managed H name = false) (model : H)
    (added) (header : H) (whole : values header name ++ added = values model name) :
    values (added.foldl (fun header value => add header name value) header) name = values model name := by
  have names : name ≠ headerSetCookie ∧ name ≠ headerContentType := ordinary_names name ordinary
  induction added generalizing header with
  | nil => simpa using whole
  | cons value added ih =>
    have next : values header name ++ [value] <+: values model name := ⟨added, by simpa using whole⟩
    have stepped := add_same header model name value names.1 names.2 unmanaged next
    rw [foldl_cons]
    refine ih (add header name value) ?_
    rw [stepped, append_assoc]
    exact whole

theorem add_all_cookies (added) (header : H) : values (added.foldl (fun header value => add header headerSetCookie value) header) headerSetCookie =
      values header headerSetCookie ++ added := by
  induction added generalizing header with
  | nil => simp
  | cons _ _ ih => rw [foldl_cons, ih, add_cookie, append_assoc]; rfl

def replacedCookie (H : Type) [ResponseHeader H] (captured : List String) (value : String) : Bool :=
  captured.any fun cookie => capturedCookieName cookie = some (cookieKey H value)

theorem clear_cookies (captured) (header : H) : values (clearCapturedHeader header headerSetCookie captured) headerSetCookie =
      (values header headerSetCookie).filter fun value => !replacedCookie H captured value := by
  rw [clearCapturedHeader, if_neg (by simp)]
  induction captured generalizing header with
  | nil => simp [replacedCookie]
  | cons cookie _ ih =>
    rw [foldl_cons, ih]
    cases shaped : capturedCookieName cookie with
    | none => simp [replacedCookie, shaped]
    | some key =>
      simp only [del_cookie_same, List.filter_filter]
      congr 1
      funext value
      by_cases same : cookieKey H value = key
      · simp [replacedCookie, shaped, same]
      · simp [replacedCookie, shaped, same, Ne.symm same]

theorem clear_other (captured) (header : H) (apart : other ≠ name) :
    values (clearCapturedHeader header name captured) other = values header other := by
  rw [clearCapturedHeader]
  split_ifs with ordinary
  · exact del_other header name other apart
  rw [not_not.mp ordinary] at apart
  induction captured generalizing header with
  | nil => rfl
  | cons _ _ ih =>
    rw [foldl_cons, ih]
    split
    · exact del_cookie_other header _ other apart
    · rfl

theorem replay_entry_other (header : H) {entry} (apart : other ≠ entry.1) : values (replayEntry header entry) other = values header other := by
  rw [replayEntry, add_all_other entry.2 _ apart, clear_other entry.2 header apart]

theorem replay_entry_same (header model : H) (ordinary : isOrdinary name = true) (unmanaged : managed H name = false) :
    values (replayEntry header ⟨name, values model name⟩) name = values model name := by
  have names := ordinary_names name ordinary
  rw [replayEntry]
  apply add_all_same name ordinary unmanaged model
  rw [clearCapturedHeader, if_pos names.1, del_same header name names.1 names.2, nil_append]

theorem replay_entry_cookies (header : H) (captured) : values (replayEntry header ⟨headerSetCookie, captured⟩) headerSetCookie =
      ((values header headerSetCookie).filter fun value => !replacedCookie H captured value) ++ captured := by
  rw [replayEntry, add_all_cookies, clear_cookies]

variable {entries : List (Sigma fun _ : String => List String)}

theorem replay_entries_absent (absent : name ∉ entries.keys) (header : H) : values (entries.foldl replayEntry header) name = values header name := by
  induction entries generalizing header with
  | nil => rfl
  | cons _ _ ih =>
    rw [keys_cons, mem_cons, not_or] at absent
    rw [foldl_cons, ih absent.2, replay_entry_other header absent.1]

theorem replay_entries_present (unique : entries.NodupKeys) {captured} (present : ⟨name, captured⟩ ∈ entries) (header : H) :
    ∃ middle : H, values middle name = values header name ∧
      values (entries.foldl replayEntry header) name = values (replayEntry middle ⟨name, captured⟩) name := by
  obtain ⟨earlier, _, rfl⟩ := append_of_mem present
  rw [nodupKeys_middle, nodupKeys_cons, keys_append, mem_append, not_or] at unique
  refine ⟨earlier.foldl replayEntry header, replay_entries_absent unique.1.1 header, ?_⟩
  rw [foldl_append, foldl_cons, replay_entries_absent unique.1.2]

theorem replay_entries_default (entries : List (Sigma fun _ : String => List String)) (header : H) :
    defaultContentType (entries.foldl replayEntry header) = defaultContentType header := by
  have adds : ∀ (name : String) (added : List String) (header : H),
      defaultContentType (added.foldl (fun header value => add header name value) header) = defaultContentType header := by
    intro name added
    induction added with
    | nil => intro header; rfl
    | cons _ _ ih => intro header; rw [foldl_cons, ih, default_add]
  have clears : ∀ (name : String) (captured : List String) (header : H),
      defaultContentType (clearCapturedHeader header name captured) = defaultContentType header := by
    intro name captured header
    rw [clearCapturedHeader]
    split_ifs
    · exact default_del header name
    induction captured generalizing header with
    | nil => rfl
    | cons _ _ ih =>
      rw [foldl_cons, ih]
      split
      · exact default_del_cookie header _
      · rfl
  induction entries generalizing header with
  | nil => rfl
  | cons _ _ ih => rw [foldl_cons, ih, replayEntry, adds, clears]

end

def ResponseCodec.Lossless (codec : ResponseCodec) : Prop :=
  ∀ seed plaintext encoded, codec.encode seed plaintext = some encoded → codec.decode encoded = some plaintext

section

variable {H : Type} [ResponseHeader H]

def handlerCookies (before after : H) : List String :=
  (values after headerSetCookie).filter (handlerCookie (snapshotResponseHeaders before))

variable {before after : H}

theorem new_cookie_kept {cookie} (set : cookie ∈ values after headerSetCookie)
    (fresh : cookie ∉ values before headerSetCookie) : cookie ∈ handlerCookies before after := by
  refine mem_filter.mpr ⟨set, ?_⟩
  unfold handlerCookie
  cases shaped : capturedCookieName cookie with
  | none => rfl
  | some name =>
    cases found : (snapshotResponseHeaders before).cookies.lookup name with
    | none =>
      have nonempty : "" ≠ cookie := by
        rintro rfl
        cases shaped
      simpa [found] using nonempty
    | some earlier =>
      have other : earlier ≠ cookie := fun same => fresh (same ▸ snapshot_cookie found)
      simpa [found] using other

theorem capture_ok {m : Middleware H} {seed : Nat} {response : Response H} {before : HeaderSnapshot} {encoded : Bytes}
    (captured : captureResponse m seed response before = .ok encoded) :
    response.body.length ≤ m.maxBodyCache ∧ m.responseCodec.encode seed (responseBytes (cachedResponse response before)) = some encoded ∧
      encoded.length ≠ 0 ∧ encoded.length ≤ maxEncodedResponseBytes m := by
  unfold captureResponse marshalResponse at captured
  split_ifs at captured with large
  simp only at captured
  split at captured
  · cases captured
  rename_i bytes found
  split_ifs at captured with empty bound
  cases captured
  exact ⟨by omega, found, empty, by omega⟩

theorem response_bytes_nonempty (response) : (responseBytes response).length ≠ 0 := by
  intro empty
  have parsed := Json.parse_bytes_render (response_within response)
  rw [← responseBytes, eq_nil_of_length_eq_zero empty] at parsed
  cases parsed

theorem replay_of_receipt (m : Middleware H) (range : MapRange) (request : Request) (cached : CachedResponse)
    (encoded : Bytes) (later : Response H) (filled : encoded.length ≠ 0)
    (bound : encoded.length ≤ maxEncodedResponseBytes m)
    (decoded : m.responseCodec.decode encoded = some (responseBytes cached))
    (fits : (responseBytes cached).length ≤ maxEncodedResponseBytes m) (low : 100 ≤ cached.statusCode)
    (high : cached.statusCode ≤ 599) (body : cached.body.length ≤ m.maxBodyCache) :
    ∃ headers : Headers, headers.entries.Perm cached.headers.entries ∧ replay m range request encoded later =
      { answer := .replayed, response := replayResponse range { cached with headers := headers } later, err := none } := by
  obtain ⟨headers, read, same⟩ := unmarshal_response_bytes cached (by omega) (by omega)
  refine ⟨headers, same, ?_⟩
  rw [replay, if_neg (by omega), decoded]
  simp only
  rw [if_neg (by have := response_bytes_nonempty cached; omega), read]
  simp only
  rw [if_neg (by omega)]

-- The headers a replay sends, against the three responses involved.
structure HeadersReplayed (before after later final : H) : Prop where
  changed : ∀ name, isOrdinary name = true → managed H name = false → values after name ≠ values before name →
    values final name = values after name
  cookies : values final headerSetCookie =
    ((values later headerSetCookie).filter fun cookie => !replacedCookie H (handlerCookies before after) cookie) ++
      handlerCookies before after
  sent : ∀ cookie ∈ values after headerSetCookie, cookie ∉ values before headerSetCookie → cookie ∈ values final headerSetCookie
  replayed : values final idempotencyReplayed = ["true"]
  kept : ∀ name, name ≠ headerContentType → name ≠ idempotencyReplayed → name ≠ headerSetCookie →
    isOrdinary name = false ∨ values after name = values before name → values final name = values later name

variable [LawfulResponseHeader H]

open LawfulResponseHeader

variable {entries : List (Sigma fun _ : String => List String)}

theorem replay_loop {delta : Headers} (same : entries.Perm delta.entries) (header : H) (name) :
    (delta.lookup name = none → values (entries.foldl replayEntry header) name = values header name) ∧
      ∀ captured, delta.lookup name = some captured → ∃ middle : H, values middle name = values header name ∧
        values (entries.foldl replayEntry header) name = values (replayEntry middle ⟨name, captured⟩) name := by
  constructor
  · intro none
    refine replay_entries_absent ?_ header
    rw [AList.lookup, dlookup_eq_none] at none
    exact fun present => none ((same.map Sigma.fst).mem_iff.mp present)
  · intro _ found
    refine replay_entries_present ((perm_nodupKeys same).mpr delta.nodupKeys) ?_ header
    exact same.mem_iff.mpr (of_mem_dlookup found)

theorem headers_replayed (later : H) (same : entries.Perm (captureHeaderDelta after (snapshotResponseHeaders before)).entries) (text) :
    HeadersReplayed before after later (set (entries.foldl replayEntry (set later idempotencyReplayed "true")) headerContentType text) := by
  have loop := replay_loop same (set later idempotencyReplayed "true")
  have delta := delta_lookup before after
  have typed : ∀ name, name ≠ headerContentType →
      values (set (entries.foldl replayEntry (set later idempotencyReplayed "true")) headerContentType text) name =
        values (entries.foldl replayEntry (set later idempotencyReplayed "true")) name :=
    fun name apart => set_other _ headerContentType text name apart
  have marked : ∀ name, name ≠ idempotencyReplayed → values (set later idempotencyReplayed "true") name = values later name :=
    fun name apart => set_other later idempotencyReplayed "true" name apart
  have cookies : values (set (entries.foldl replayEntry (set later idempotencyReplayed "true")) headerContentType text)
      headerSetCookie = ((values later headerSetCookie).filter fun cookie =>
        !replacedCookie H (handlerCookies before after) cookie) ++ handlerCookies before after := by
    have looked := delta headerSetCookie
    rw [typed headerSetCookie (by decide), ← marked headerSetCookie (by decide)]
    rw [if_pos rfl, ← handlerCookies] at looked
    by_cases none : handlerCookies before after = []
    · rw [(loop headerSetCookie).1 (by rw [looked, if_pos none]), none]
      simp [replacedCookie]
    · obtain ⟨middle, held, ended⟩ := (loop headerSetCookie).2 _ (by rw [looked, if_neg none])
      rw [ended, replay_entry_cookies, held]
  refine ⟨?_, cookies, ?_, ?_, ?_⟩
  · intro name ordinary unmanaged changed
    have names := ordinary_names name ordinary
    obtain ⟨middle, -, ended⟩ := (loop name).2 (values after name) (by
      rw [delta name, if_neg names.1, if_pos ⟨ordinary, changed⟩])
    rw [typed name names.2, ended, replay_entry_same middle after ordinary unmanaged]
  · intro cookie on fresh
    rw [cookies]
    exact mem_append_right _ (new_cookie_kept on fresh)
  · rw [typed idempotencyReplayed (by decide), (loop idempotencyReplayed).1 (by
      rw [delta, if_neg (by decide), if_neg (fun both => absurd both.1 (by decide))])]
    exact set_replayed later "true" (by decide)
  · intro name content replayed cookie kept
    rw [typed name content, (loop name).1, marked name replayed]
    rw [delta name, if_neg cookie, if_neg]
    rintro ⟨ordinary, changed⟩
    obtain plain | equal := kept
    · rw [ordinary] at plain
      cases plain
    · exact changed equal

end

def entryOrder : MapRange where
  order := fun headers => headers.entries
  visits := fun headers => .refl headers.entries

def sampleRequest : Request where
  method := "POST"
  path := "/v1/transfers"
  idempotencyHeader := "key-1"
  contextTenant := "acme"
  body := [123, 125]
  stream := none
  decode := id

def sampleBefore : Response PlainHeader where
  statusCode := 200
  header := { fields := [("X-Frame-Options", "DENY"), ("X-Correlation", "a")], cookies := ["csrf=1"], plain := by decide }
  body := []

def sampleAfter : Response PlainHeader where
  statusCode := 201
  header := { ownType := "application/json", fields := [("X-Correlation", "a"), ("Location", "/v1/7")],
              cookies := ["csrf=1", "sid=9"], plain := by decide }
  body := [123, 125]

def sampleLater : Response PlainHeader where
  statusCode := 200
  header := { fields := [("X-Frame-Options", "DENY"), ("X-Correlation", "b")], cookies := ["csrf=2", "sid=8"], plain := by decide }
  body := []

def sampleMiddleware : Middleware PlainHeader where
  digest := fun _ => ""

def sampleReceipt : CachedResponse := cachedResponse sampleAfter (snapshotResponseHeaders sampleBefore.header)

theorem identity_lossless : identityResponseCodec.Lossless := by
  intro _ _ _ encodes
  cases encodes
  rfl

theorem sample_receipt_size : (responseBytes sampleReceipt).length ≤ 400 := by decide +kernel

theorem sample_captured : captureResponse sampleMiddleware 0 sampleAfter (snapshotResponseHeaders sampleBefore.header) =
    .ok (responseBytes sampleReceipt) := by
  have size := sample_receipt_size
  have bound : maxEncodedResponseBytes sampleMiddleware = 2097152 := by decide
  rw [captureResponse, if_neg (by decide)]
  change (if (responseBytes sampleReceipt).length = 0 then Except.error CaptureError.emptyEncodedResponse
    else if (responseBytes sampleReceipt).length > maxEncodedResponseBytes sampleMiddleware then
      Except.error CaptureError.responseTooLarge
    else Except.ok (responseBytes sampleReceipt)) = _
  rw [if_neg (response_bytes_nonempty sampleReceipt), if_neg (by omega)]

def shortCodec (chosen : Bytes) : ResponseCodec where
  encode := fun _ plaintext => if plaintext = chosen then some [0] else some (1 :: plaintext)
  decode := fun encoded =>
    match encoded with
    | [0] => some chosen
    | 1 :: plaintext => some plaintext
    | _ => none

theorem short_codec_lossless (chosen) : (shortCodec chosen).Lossless := by
  intro _ plaintext encoded encodes
  change (if plaintext = chosen then some [0] else some (1 :: plaintext)) = some encoded at encodes
  split_ifs at encodes with same
  · cases encodes
    rw [same]
    rfl
  · cases encodes
    rfl

def ReplaysExactly (H : Type) [ResponseHeader H] : Prop :=
  ∀ (m : Middleware H) (range : MapRange) (seed : Nat) (request : Request) (before after later : Response H)
    (encoded : Bytes), m.responseCodec.Lossless → 100 ≤ after.statusCode → after.statusCode ≤ 499 →
    captureResponse m seed after (snapshotResponseHeaders before.header) = .ok encoded →
    ∃ final : Response H, replay m range request encoded later = { answer := .replayed, response := final, err := none } ∧
      final.statusCode = after.statusCode ∧ final.body = after.body ∧
      contentType final.header = contentType after.header ∧
      (∀ name, name ≠ headerSetCookie → values after.header name ≠ values before.header name →
        values final.header name = values after.header name) ∧
      (∀ cookie ∈ values after.header headerSetCookie, cookie ∉ values before.header headerSetCookie →
        cookie ∈ values final.header headerSetCookie) ∧
      (∀ name, name ≠ headerSetCookie → values after.header name = values before.header name →
        values final.header name = values later.header name)

def smallMiddleware : Middleware PlainHeader :=
  { digest := fun _ => "", maxBodyCache := 16,
    responseCodec := shortCodec (responseBytes sampleReceipt) }

end LibCommons.Idempotency
