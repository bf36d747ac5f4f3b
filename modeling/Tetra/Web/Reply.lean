import Tetra.Lib.Decimal
import Tetra.Web.RequestFormat

/-!
# Replies

`http_reply.cpp`: the status line, the header fields and the content of a reply.

`scan_toBuffers` says that the request parser reads the header of a reply back as it was. A reply
without additional headers therefore tells where its content ends (`staticReply_read`). Additional
headers are copied over the first ones, beginning with `Content-Length` (`additional_lookup`).
-/

namespace Tetra.Web

open Scanner RequestReader Decimal

/-! ## Status -/

/-- `HttpReply::status_type` -/
inductive StatusType
  | switchingProtocols
  | ok
  | created
  | accepted
  | noContent
  | multipleChoices
  | movedPermanently
  | movedTemporarily
  | notModified
  | badRequest
  | unauthorized
  | forbidden
  | notFound
  | internalServerError
  | notImplemented
  | badGateway
  | serviceUnavailable
  deriving DecidableEq, Repr

/-- `status_strings::to_buffer`, without the end of the line. -/
def StatusType.line : StatusType → String
  | switchingProtocols => "HTTP/1.1 101 Switching Protocols"
  | ok => "HTTP/1.0 200 OK"
  | created => "HTTP/1.0 201 Created"
  | accepted => "HTTP/1.0 202 Accepted"
  | noContent => "HTTP/1.0 204 No Content"
  | multipleChoices => "HTTP/1.0 300 Multiple Choices"
  | movedPermanently => "HTTP/1.0 301 Moved Permanently"
  | movedTemporarily => "HTTP/1.0 302 Moved Temporarily"
  | notModified => "HTTP/1.0 304 Not Modified"
  | badRequest => "HTTP/1.0 400 Bad Request"
  | unauthorized => "HTTP/1.0 401 Unauthorized"
  | forbidden => "HTTP/1.0 403 Forbidden"
  | notFound => "HTTP/1.0 404 Not Found"
  | internalServerError => "HTTP/1.0 500 Internal Server Error"
  | notImplemented => "HTTP/1.0 501 Not Implemented"
  | badGateway => "HTTP/1.0 502 Bad Gateway"
  | serviceUnavailable => "HTTP/1.0 503 Service Unavailable"

/-- `status_strings::to_buffer` -/
def StatusType.buffer (status : StatusType) : List UInt8 := text status.line ++ [cr, lf]

/-- The page of `stock_replies` with a title and a heading. -/
def stockPage (title heading : String) : List UInt8 :=
  text ("<html><head><title>" ++ title ++ "</title></head><body><h1>" ++ heading ++
    "</h1></body></html>")

/-- `stock_replies::to_string`; there is no case for `switching_protocols`. -/
def StatusType.stock : StatusType → List UInt8
  | ok => []
  | created => stockPage "Created" "201 Created"
  | accepted => stockPage "Accepted" "202 Accepted"
  | noContent => stockPage "No Content" "204 Content"
  | multipleChoices => stockPage "Multiple Choices" "300 Multiple Choices"
  | movedPermanently => stockPage "Moved Permanently" "301 Moved Permanently"
  | movedTemporarily => stockPage "Moved Temporarily" "302 Moved Temporarily"
  | notModified => stockPage "Not Modified" "304 Not Modified"
  | badRequest => stockPage "Bad Request" "400 Bad Request"
  | unauthorized => stockPage "Unauthorized" "401 Unauthorized"
  | forbidden => stockPage "Forbidden" "403 Forbidden"
  | notFound => stockPage "Not Found" "404 Not Found"
  | notImplemented => stockPage "Not Implemented" "501 Not Implemented"
  | badGateway => stockPage "Bad Gateway" "502 Bad Gateway"
  | serviceUnavailable => stockPage "Service Unavailable" "503 Service Unavailable"
  | internalServerError | switchingProtocols =>
    stockPage "Internal Server Error" "500 Internal Server Error"

/-! ## Replies -/

/-- The buffers of one header field. -/
def HttpHeader.buffers (h : HttpHeader) : List (List UInt8) :=
  [h.name, [ascii ':', space], h.value, [cr, lf]]

/-- `HttpReply::to_buffers` -/
def toBuffers (headers : List HttpHeader) : List (List UInt8) :=
  headers.flatMap HttpHeader.buffers ++ [[cr, lf]]

/-- What `ReplyBuilder::write` writes. -/
def builderWrite (status : StatusType) (headers : List HttpHeader) : List UInt8 :=
  status.buffer ++ (toBuffers headers).flatten

/-- `std::copy` of the additional headers to the place where the headers begin. More than there is
place for are undefined behaviour. -/
def copyOver (headers additional : List HttpHeader) : Option (List HttpHeader) :=
  if additional.length ≤ headers.length then some (additional ++ headers.drop additional.length)
  else none

/-- The headers that `HttpReply::static_reply` begins with. -/
def staticHeaders (contentType content : List UInt8) : List HttpHeader :=
  [⟨text "Content-Length", numeral content.length⟩, ⟨text "Content-Type", contentType⟩]

/-- `HttpReply::static_reply` and `StaticHttpRequestHandler::operator()` -/
def staticReply (status : StatusType) (contentType content : List UInt8)
    (additional : List HttpHeader) : Option (List UInt8) :=
  (copyOver (staticHeaders contentType content) additional).map fun headers =>
    builderWrite status headers ++ content

/-- `HttpReply::stock_reply` -/
def stockReply (status : StatusType) : Option (List UInt8) :=
  staticReply status (text "text/html") status.stock []

/-! ## Headers of a request -/

/-- `get_header_value_or_default` -/
def HttpRequest.header (r : HttpRequest) (name default : List UInt8) : List UInt8 :=
  ((r.headers.find? fun h => h.name = name).map HttpHeader.value).getD default

/-- `has_header`, which says `false` when it has found the header. -/
def HttpRequest.hasHeader (r : HttpRequest) (name : List UInt8) : Bool :=
  !r.headers.any fun h => h.name = name

/-! ## Reading a reply back -/

variable {headers additional : List HttpHeader} {contentType content name : List UInt8}

/-- A header field as a line of the format. -/
def HttpHeader.item (h : HttpHeader) : HeaderItem := .field h.name h.value

theorem foldl_add_item (before : List HttpHeader) :
    (headers.map HttpHeader.item).foldl HeaderItem.add before = before ++ headers := by
  induction headers generalizing before with
  | nil => simp
  | cons h headers ih =>
    rw [List.map_cons, List.foldl_cons, HttpHeader.item, HeaderItem.add, ih, List.append_assoc]
    rfl

theorem flatten_toBuffers :
    (toBuffers headers).flatten = (headers.map HttpHeader.item).flatMap HeaderItem.bytes ++ [cr, lf] := by
  rw [toBuffers, List.flatten_append, List.flatten_singleton]
  congr 1
  induction headers with
  | nil => rfl
  | cons h headers ih =>
    rw [List.flatMap_cons, List.flatten_append, ih, List.map_cons, List.flatMap_cons]
    simp [HttpHeader.buffers, HttpHeader.item, HeaderItem.bytes]

/-- **The request parser reads the header of a reply back**, and leaves what is behind it. -/
theorem scan_toBuffers (hvalid : ∀ h ∈ headers, h.item.Valid) (rest : List UInt8) :
    scan consume (inState .headerLineStart {}) ((toBuffers headers).flatten ++ rest) =
      (.accept, inState .expectingNewline3 { headers }, rest) := by
  refine Accepts.scan_append ((accepts_lines _ _).mpr ?_)
  refine ⟨headers.map HttpHeader.item, List.forall_mem_map.mpr hvalid, ?_,
    flatten_toBuffers, ?_⟩
  · intro _ i hi
    -- no line of a reply continues another
    obtain ⟨h, -, rfl⟩ := List.mem_map.mp (List.mem_of_mem_head? hi)
    exact not_false
  · rw [foldl_add_item]
    rfl

theorem item_valid {value : List UInt8} (hname : name ≠ [] ∧ ∀ c ∈ name, isToken c)
    (hvalue : ∀ c ∈ value, ¬ isCtl c) : (HttpHeader.mk name value).item.Valid :=
  ⟨hname.1, hname.2, hvalue⟩

theorem not_isCtl_numeral {n : Nat} : ∀ c ∈ numeral n, ¬ isCtl c := by
  intro c hc
  have hrange := mem_numeral hc
  rw [isCtl, Bool.or_eq_true, decide_eq_true_eq, beq_iff_eq]
  omega

theorem item_valid_staticHeaders (htype : ∀ c ∈ contentType, ¬ isCtl c) :
    ∀ h ∈ staticHeaders contentType content, h.item.Valid := by
  intro h hh
  rw [staticHeaders, List.mem_cons, List.mem_singleton] at hh
  rcases hh with rfl | rfl
  · exact item_valid (by decide +kernel) not_isCtl_numeral
  · exact item_valid (by decide +kernel) htype

/--
**A reply tells where its content ends.** Without additional headers, the request parser reads the
header of a reply and leaves the content and what is behind it; the length that the header announces
is the length of the content.
-/
theorem staticReply_read (status : StatusType) (htype : ∀ c ∈ contentType, ¬ isCtl c)
    (rest : List UInt8) :
    ∃ header state request, staticReply status contentType content [] =
        some (status.buffer ++ header ++ content) ∧
      scan consume (inState .headerLineStart {}) (header ++ (content ++ rest)) =
        (.accept, inState state request, content ++ rest) ∧
      numeral? (request.header (text "Content-Length") []) = some content.length := by
  refine ⟨(toBuffers (staticHeaders contentType content)).flatten, .expectingNewline3,
    { headers := staticHeaders contentType content }, rfl, ?_, ?_⟩
  · exact scan_toBuffers (item_valid_staticHeaders htype) _
  · rw [show HttpRequest.header { headers := staticHeaders contentType content }
        (text "Content-Length") [] = numeral content.length from rfl, numeral?_numeral]

/-- **Additional headers take the place of the length.** With one or two of them, none of which is a
length itself, a reply does not announce the length of its content. -/
theorem additional_lookup (hne : additional ≠ [])
    (hname : ∀ a ∈ additional, a.name ≠ text "Content-Length")
    (hcopy : copyOver (staticHeaders contentType content) additional = some headers) :
    HttpRequest.header { headers } (text "Content-Length") [] = [] := by
  have hfind : headers.find? (fun h => h.name = text "Content-Length") = none := by
    rw [List.find?_eq_none]
    intro h hh
    rw [copyOver, staticHeaders] at hcopy
    match additional, hne with
    | [a], _ =>
      obtain rfl := Option.some.inj hcopy
      simp only [List.length_singleton, List.drop_one, List.tail_cons, List.singleton_append,
        List.mem_cons, List.not_mem_nil, or_false] at hh
      rcases hh with rfl | rfl
      · simpa using hname _ (by simp)
      · have htype : text "Content-Type" ≠ text "Content-Length" := by decide
        simpa using htype
    | [a, b], _ =>
      obtain rfl := Option.some.inj hcopy
      simpa using hname h (by simpa using hh)
    | a :: b :: c :: rest, _ => simp at hcopy
  rw [HttpRequest.header, hfind]
  rfl

end Tetra.Web
