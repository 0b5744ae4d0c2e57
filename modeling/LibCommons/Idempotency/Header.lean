import LibCommons.Lib.MultiMap
import LibCommons.Idempotency.Middleware

namespace LibCommons.Idempotency

open MultiMap

open ResponseHeader (all set add del delCookie cookieKey managed contentType defaultContentType)

def values {H : Type} [ResponseHeader H] (header : H) (name : String) : List String := valuesOf (all header) name

-- The documented behaviour of a response header, on canonical names; Date and Connection are managed.
class LawfulResponseHeader (H : Type) [ResponseHeader H] : Prop where
  del_same : ∀ (header : H) (name : String), name ≠ headerSetCookie → name ≠ headerContentType →
    values (del header name) name = []
  del_other : ∀ (header : H) (name other : String), other ≠ name → values (del header name) other = values header other
  del_cookie_same : ∀ (header : H) (key : String), values (delCookie header key) headerSetCookie =
    (values header headerSetCookie).filter fun value => cookieKey H value ≠ key
  del_cookie_other : ∀ (header : H) (key name : String), name ≠ headerSetCookie →
    values (delCookie header key) name = values header name
  -- For lists that some response does hold: a header of one value is set by the first Add.
  add_same : ∀ (header model : H) (name value : String), name ≠ headerSetCookie → name ≠ headerContentType →
    managed H name = false → values header name ++ [value] <+: values model name →
    values (add header name value) name = values header name ++ [value]
  add_cookie : ∀ (header : H) (value : String),
    values (add header headerSetCookie value) headerSetCookie = values header headerSetCookie ++ [value]
  add_other : ∀ (header : H) (name value other : String), other ≠ name →
    values (add header name value) other = values header other
  set_replayed : ∀ (header : H) (value : String), value ≠ "" →
    values (set header idempotencyReplayed value) idempotencyReplayed = [value]
  set_other : ∀ (header : H) (name value other : String), other ≠ name →
    values (set header name value) other = values header other
  set_content_type : ∀ (header : H) (value : String),
    contentType (set header headerContentType value) = if value = "" then defaultContentType header else value
  content_type_empty : ∀ header : H, contentType header = "" → defaultContentType header = ""
  default_set : ∀ (header : H) (name value : String), defaultContentType (set header name value) = defaultContentType header
  default_add : ∀ (header : H) (name value : String), defaultContentType (add header name value) = defaultContentType header
  default_del : ∀ (header : H) (name : String), defaultContentType (del header name) = defaultContentType header
  default_del_cookie : ∀ (header : H) (key : String), defaultContentType (delCookie header key) = defaultContentType header

structure PlainHeader where
  ownType : String := ""
  fields : List (String × String) := []
  cookies : List String := []
  plain : ∀ field ∈ fields, field.1 ≠ headerContentType ∧ field.1 ≠ headerSetCookie := by simp

namespace PlainHeader

def shownType (header : PlainHeader) : String :=
  if header.ownType = "" then "text/plain; charset=utf-8" else header.ownType

def pairs (header : PlainHeader) : List (String × String) :=
  (headerContentType, header.shownType) :: (header.fields ++ header.cookies.map fun cookie => (headerSetCookie, cookie))

def remove (header : PlainHeader) (name : String) : PlainHeader :=
  { header with
    fields := header.fields.filter fun field => field.1 ≠ name
    plain := fun field present => header.plain field (List.mem_of_mem_filter present) }

def push (header : PlainHeader) (name value : String) (content : name ≠ headerContentType)
    (cookie : name ≠ headerSetCookie) : PlainHeader :=
  { header with
    fields := header.fields ++ [(name, value)]
    plain := by
      intro field present
      obtain old | rfl : field ∈ header.fields ∨ field = (name, value) := by simpa using present
      · exact header.plain field old
      · exact ⟨content, cookie⟩ }

def add (header : PlainHeader) (name value : String) : PlainHeader :=
  if content : name = headerContentType then { header with ownType := value }
  else if cookie : name = headerSetCookie then { header with cookies := header.cookies ++ [value] }
  else header.push name value content cookie

def del (header : PlainHeader) (name : String) : PlainHeader :=
  if name = headerContentType then { header with ownType := "" }
  else if name = headerSetCookie then { header with cookies := [] }
  else header.remove name

def set (header : PlainHeader) (name value : String) : PlainHeader :=
  if name = headerSetCookie then header.add name value else (header.del name).add name value

-- fasthttp's key of a cookie: the text before the first '=', trimmed.
def cookieKey (value : String) : String :=
  String.ofList ((((value.toList.takeWhile fun c => c ≠ '=').dropWhile fun c => c = ' ').reverse.dropWhile fun c => c = ' ').reverse)

instance : ResponseHeader PlainHeader where
  all := pairs
  contentType := shownType
  defaultContentType := fun _ => "text/plain; charset=utf-8"
  set := set
  add := add
  del := del
  delCookie := fun header key => { header with cookies := header.cookies.filter fun value => cookieKey value ≠ key }
  cookieKey := cookieKey
  managed := fun name => name = "Date" || name = "Connection"
  respond := fun response document =>
    { response with
      statusCode := document.code
      header := response.header.set headerContentType "application/json; charset=utf-8"
      body := Json.renderBytes (.obj [("code", .num (Json.intLiteral document.code)), ("title", .str document.title),
        ("message", .str document.message)])
      isBodyStream := false }

theorem plain_values (header : PlainHeader) (name : String) : values header name = (if name = headerContentType then [header.shownType] else []) ++
      valuesOf header.fields name ++ (if name = headerSetCookie then header.cookies else []) := by
  change valuesOf header.pairs name = _
  by_cases content : name = headerContentType
  · subst content
    simp [pairs, valuesOf, List.filter_map, Function.comp_def, headerContentType, headerSetCookie]
  · by_cases cookie : name = headerSetCookie
    · simp [pairs, valuesOf, List.filter_map, Function.comp_def, cookie, headerContentType, headerSetCookie]
    · simp [pairs, valuesOf, List.filter_map, Function.comp_def, content, cookie, Ne.symm content, Ne.symm cookie]

variable {name : String}

theorem field_values_reserved (header : PlainHeader) (reserved : name = headerContentType ∨ name = headerSetCookie) :
    valuesOf header.fields name = [] := by
  rw [valuesOf, List.map_eq_nil_iff, List.filter_eq_nil_iff]
  intro field present
  have apart := header.plain field present
  obtain rfl | rfl := reserved
  · simpa using apart.1
  · simpa using apart.2

theorem values_add_other (header : PlainHeader) (name value other : String) (apart : other ≠ name) :
    values (header.add name value) other = values header other := by
  unfold add
  split_ifs with content cookie
  · rw [content] at apart
    simp [plain_values, apart]
  · rw [cookie] at apart
    simp [plain_values, apart, shownType]
  · simp [plain_values, push, values_of_concat, Ne.symm apart, shownType]

theorem values_add_same (header : PlainHeader) (value : String) (content : name ≠ headerContentType) :
    values (header.add name value) name = values header name ++ [value] := by
  by_cases cookie : name = headerSetCookie
  · subst cookie
    simp [add, plain_values, content]
  · simp [add, push, plain_values, content, cookie, values_of_concat]

theorem values_del_other (header : PlainHeader) (name other : String) (apart : other ≠ name) :
    values (header.del name) other = values header other := by
  unfold del
  split_ifs with content cookie
  · rw [content] at apart
    simp [plain_values, apart]
  · rw [cookie] at apart
    simp [plain_values, apart, shownType]
  · have same : valuesOf (header.fields.filter fun field => field.1 ≠ name) other = valuesOf header.fields other := by
      simp only [valuesOf, List.filter_filter]
      congr 2
      funext field
      by_cases named : field.1 = other <;> simp [named, apart]
    simp only [plain_values, remove, same, shownType]

theorem values_del_same (header : PlainHeader) (content : name ≠ headerContentType) : values (header.del name) name = [] := by
  by_cases cookie : name = headerSetCookie
  · subst cookie
    simp [del, plain_values, content, field_values_reserved]
  · simp [del, remove, plain_values, content, cookie, valuesOf, List.filter_filter]

instance : LawfulResponseHeader PlainHeader where
  del_same := fun header name _ content => values_del_same header content
  del_other := values_del_other
  del_cookie_same := fun header key => by
    simp only [plain_values, ResponseHeader.delCookie, field_values_reserved header (.inr rfl)]
    simp [headerSetCookie, headerContentType, ResponseHeader.cookieKey]
  del_cookie_other := fun header key name cookie => by
    simp [plain_values, ResponseHeader.delCookie, cookie, shownType]
  add_same := fun header _ name value _ content _ _ => values_add_same header value content
  add_cookie := fun header value => values_add_same header value (by decide)
  add_other := values_add_other
  set_replayed := fun header value _ => by
    change values ((header.del idempotencyReplayed).add idempotencyReplayed value) idempotencyReplayed = [value]
    rw [values_add_same _ _ (by decide), values_del_same _ (by decide), List.nil_append]
  set_other := fun header name value other apart => by
    change values (header.set name value) other = values header other
    unfold set
    split_ifs
    · exact values_add_other header name value other apart
    · rw [values_add_other _ name value other apart, values_del_other header name other apart]
  set_content_type := fun header value => rfl
  content_type_empty := fun header empty => by
    change header.shownType = "" at empty
    unfold shownType at empty
    split_ifs at empty with own
    · exact absurd empty (by decide)
    · exact absurd empty own
  default_set := fun _ _ _ => rfl
  default_add := fun _ _ _ => rfl
  default_del := fun _ _ => rfl
  default_del_cookie := fun _ _ => rfl

end PlainHeader

end LibCommons.Idempotency
