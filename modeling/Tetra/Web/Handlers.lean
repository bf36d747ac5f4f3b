import Tetra.Web.Delivery
import Tetra.Web.Reply

/-!
# Connections and their handlers

`HttpConnection::handle_read` reads a request, and then calls the handler of the server with what has
arrived behind it. The handlers here leave a callback for the next read:
`WebsocketHttpRequestHandler` hands the connection over to a `WebsocketConnection`, and
`HttpRequestBodyCollector` waits until the body is there.

None of this depends on the reads in which the bytes of a client come (`seamless_handleRead`). What
happens is therefore said by `reads_request` for the whole input, and the two handlers give
`websocket_stream` and `body_stream`.

The user's own handler of a WebSocket keeps the connection alive.
-/

namespace Tetra.Web

open Scanner

/-- A handler: what it does when it gets a request and the bytes behind it, and what its callback does
with the next read. `none` leaves no callback. -/
structure RequestHandler (η β : Type*) where
  handle : HttpRequest → List UInt8 → Option η × List β
  read : η → List UInt8 → Option η × List β

/-- `HttpConnection`: who gets the next read. -/
inductive Reading (η : Type*)
  | request (p : RequestReader)
  | callback (h : η)
  | closed

namespace HttpConnection

variable {η β : Type*}

def ofHandler (r : Option η × List β) : Reading η × List β :=
  (match r.1 with
    | some h => .callback h
    | none => .closed, r.2)

/-- `HttpConnection::handle_read`, or the callback that took its place; `badRequest` is the stock
reply. -/
def handleRead (H : RequestHandler η β) (badRequest : List β) :
    Reading η → List UInt8 → Reading η × List β
  | .request p, input =>
    match RequestReader.parse p input with
    | (.accept, p', rest) => ofHandler (H.handle p'.request rest)
    | (.reject, _, _) => (.closed, badRequest)
    | (.more, p', _) => (.request p', [])
  | .callback h, input => ofHandler (H.read h input)
  | .closed, _ => (.closed, [])

/-- The reads of a new connection. -/
def reads (H : RequestHandler η β) (badRequest : List β) (pieces : List (List UInt8)) : List β :=
  (transduce (handleRead H badRequest) (.request .start) pieces).2

end HttpConnection

/-! ## The reads do not matter -/

section Seamless

open HttpConnection

variable {η β : Type*} {H : RequestHandler η β} {badRequest : List β}

/-- What a handler has done, and then its callback with more bytes. -/
def RequestHandler.goOn (H : RequestHandler η β) (r : Option η × List β) (input : List UInt8) :
    Option η × List β :=
  match r.1 with
  | some h => ((H.read h input).1, r.2 ++ (H.read h input).2)
  | none => r

/-- A handler that does not see where a read ends. -/
structure RequestHandler.Seamless (H : RequestHandler η β) : Prop where
  handle : ∀ request as bs, H.handle request (as ++ bs) = H.goOn (H.handle request as) bs
  nil : ∀ h, H.read h [] = (some h, [])
  append : ∀ h as bs, H.read h (as ++ bs) = H.goOn (H.read h as) bs

theorem ofHandler_goOn (r : Option η × List β) (input : List UInt8) :
    ofHandler (H.goOn r input) =
      ((handleRead H badRequest (ofHandler r).1 input).1,
        (ofHandler r).2 ++ (handleRead H badRequest (ofHandler r).1 input).2) := by
  obtain ⟨callback, out⟩ := r
  cases callback with
  | none => simp [RequestHandler.goOn, ofHandler, handleRead]
  | some h => rfl

/-- **A connection does not see where a read ends**, if its handler does not. -/
theorem seamless_handleRead (hH : H.Seamless) : Scanner.Seamless (handleRead H badRequest) where
  nil s := by
    cases s with
    | request p => rfl
    | callback h =>
      rw [handleRead, hH.nil]
      rfl
    | closed => rfl
  append s as bs := by
    cases s with
    | closed => rfl
    | callback h =>
      rw [handleRead, hH.append, handleRead]
      exact ofHandler_goOn _ _
    | request p =>
      rcases hscan : RequestReader.parse p as with ⟨v, p', rest⟩
      have hscan' : scan RequestReader.consume p as = (v, p', rest) := hscan
      cases v with
      | accept =>
        have hall : RequestReader.parse p (as ++ bs) = (.accept, p', rest ++ bs) :=
          scan_append_of_ne hscan' (by decide)
        rw [handleRead, hall, handleRead, hscan]
        simp only
        rw [hH.handle]
        exact ofHandler_goOn _ _
      | reject =>
        have hall : RequestReader.parse p (as ++ bs) = (.reject, p', rest ++ bs) :=
          scan_append_of_ne hscan' (by decide)
        rw [handleRead, hall, handleRead, hscan]
        simp [handleRead]
      | more =>
        have hrest : rest = [] := by
          by_contra hne
          exact scan_more_rest hne hscan'
        subst hrest
        have hall : RequestReader.parse p (as ++ bs) = RequestReader.parse p' bs :=
          Reads.scan_append hscan'
        rw [handleRead, hall]
        simp [handleRead, hscan]

/-- The handler gets the request and whatever comes behind it. -/
theorem reads_request (hH : H.Seamless) (t : RequestText) {rest : List UInt8}
    {pieces : List (List UInt8)} (hpieces : pieces.flatten = t.bytes ++ rest) :
    reads H badRequest pieces = (H.handle t.request rest).2 := by
  obtain ⟨state, hparse⟩ := parse_text t rest
  rw [reads, (seamless_handleRead hH).transduce_eq, hpieces, handleRead, hparse]
  rfl

/-- Until the request is complete, the handler gets nothing; if the bytes cannot become one, the
client gets the stock reply and nothing else. -/
theorem reads_of_not_request (hH : H.Seamless) {pieces : List (List UInt8)}
    (hnone : ∀ (t : RequestText) (rest : List UInt8), pieces.flatten ≠ t.bytes ++ rest) :
    reads H badRequest pieces = [] ∨ reads H badRequest pieces = badRequest := by
  rw [reads, (seamless_handleRead hH).transduce_eq, handleRead]
  rcases hparse : RequestReader.parse .start pieces.flatten with ⟨v, ⟨state, request⟩, rest⟩
  cases v with
  | accept =>
    obtain ⟨t, heq, -⟩ := exists_text hparse
    exact absurd heq (hnone t rest)
  | reject => exact .inr rfl
  | more => exact .inl rfl

end Seamless

/-! ## What handlers do -/

/-- What is written to the client, or what a handler of the user is called with. -/
inductive Event
  | wrote (content : List UInt8)
  | message (m : WebsocketMessage)
  | body (request : HttpRequest) (content : List UInt8)
  deriving DecidableEq, Repr

/-- `HttpReply::stock_reply(HttpReply::bad_request)` -/
def badRequestReply : List Event := (stockReply .badRequest).toList.map .wrote

/-! ## WebSockets -/

/-- `toupper` -/
def toUpper (c : UInt8) : UInt8 :=
  if ascii 'a' ≤ c ∧ c ≤ ascii 'z' then c - 32 else c

/-- `boost::iequals` -/
def iequals (s t : List UInt8) : Bool := s.map toUpper = t.map toUpper

/-- `find(sub) != npos` -/
def hasSubstring (s sub : List UInt8) : Bool := s.tails.any sub.isPrefixOf

/-- The condition of `WebsocketHttpRequestHandler::operator()`. -/
def isUpgrade (r : HttpRequest) : Bool :=
  hasSubstring (r.header (text "Connection") []) (text "Upgrade") &&
    iequals (r.header (text "Upgrade") []) (text "websocket") &&
      0 < (r.header (text "Sec-WebSocket-Key") []).length

section Websocket

-- the SHA-1 hash of a key and `KEY_MAGIC_STRING`, in base64
variable (acceptKey : List UInt8 → List UInt8)

def keyMagicString : List UInt8 := text "258EAFA5-E914-47DA-95CA-C5AB0DC85B11"

/-- The reply to a request for a WebSocket. -/
def upgradeReply (r : HttpRequest) : List UInt8 :=
  builderWrite .switchingProtocols
    [⟨text "Upgrade", text "websocket"⟩, ⟨text "Connection", text "Upgrade"⟩,
      ⟨text "Sec-WebSocket-Version", text "13"⟩,
      ⟨text "Sec-WebSocket-Accept",
        acceptKey (r.header (text "Sec-WebSocket-Key") [] ++ keyMagicString)⟩]

/-- `WebsocketHttpRequestHandler::operator()` and `WebsocketConnection::static_handle_read`. What is in
the frame of a new connection is not defined. -/
def websocketHandler (frame : WebsocketFrame) : RequestHandler WebsocketConnection Event where
  handle request input :=
    if isUpgrade request then
      let r := (WebsocketConnection.create frame).handleRead input
      (some r.1, .wrote (upgradeReply acceptKey request) :: r.2.map .message)
    else (none, badRequestReply)
  read c input := (some (c.handleRead input).1, (c.handleRead input).2.map .message)

variable {acceptKey}

theorem seamless_websocketHandler (frame : WebsocketFrame) :
    (websocketHandler acceptKey frame).Seamless where
  handle request as bs := by
    by_cases h : isUpgrade request
    · simp [websocketHandler, RequestHandler.goOn, h, WebsocketConnection.handleRead_append]
    · simp [websocketHandler, RequestHandler.goOn, h]
  nil c := by
    have hnil : c.handleRead [] = (c, []) := drain_nil c
    simp [websocketHandler, hnil]
  append c as bs := by
    simp [websocketHandler, RequestHandler.goOn, WebsocketConnection.handleRead_append]

/--
**From the request to the messages.** A client that asks for a WebSocket and sends messages right behind
its request, without waiting for the reply, gets one reply, and every message of it is handed over, in
whatever reads the bytes come.
-/
theorem websocket_stream (frame : WebsocketFrame) (t : RequestText) (hup : isUpgrade t.request)
    (sent : List (List WireFrame × WebsocketMessage)) (hsent : ∀ p ∈ sent, Carries p.1 p.2)
    (pieces : List (List UInt8))
    (hpieces : pieces.flatten = t.bytes ++ sent.flatMap fun p => p.1.flatMap WireFrame.bytes) :
    HttpConnection.reads (websocketHandler acceptKey frame) badRequestReply pieces =
      .wrote (upgradeReply acceptKey t.request) :: sent.map fun p => .message p.2 := by
  have hmessages := handleRead_fragments frame sent hsent
    [sent.flatMap fun p => p.1.flatMap WireFrame.bytes] (by simp)
  rw [WebsocketConnection.reads_eq, List.flatten_singleton] at hmessages
  rw [reads_request (seamless_websocketHandler frame) t hpieces]
  simp only [websocketHandler, if_pos hup]
  rw [hmessages, List.map_map]
  rfl

/-- What a browser sends first. -/
def websocketRequest : RequestText where
  method := text "GET"
  uri := text "/websocket_echo"
  major := text "1"
  minor := text "1"
  items := [.field (text "Connection") (text "keep-alive, Upgrade"),
    .field (text "Upgrade") (text "WebSocket"), .field (text "Sec-WebSocket-Key") (text "dGhlIHNhbQ==")]
  method_ne := by decide
  method_token := by decide +kernel
  uri_valid := by decide +kernel
  major_ne := by decide
  major_digit := by decide +kernel
  minor_ne := by decide
  minor_digit := by decide +kernel
  items_valid := by
    rw [List.forall_mem_cons, List.forall_mem_cons, List.forall_mem_singleton]
    simp only [HeaderItem.Valid]
    decide +kernel
  first_field := by simp [HeaderItem.IsFold]

/-- The request and a text in three reads, the second of which begins within the request and ends
within the frame. -/
theorem websocket_stream_text :
    HttpConnection.reads
        (websocketHandler id ⟨⟨0, false, false, false, false, 0, false⟩, 0, fun _ => 0, []⟩)
        badRequestReply [websocketRequest.bytes.take 50, websocketRequest.bytes.drop 50 ++ [0x81], [1, 72]] =
      [.wrote (upgradeReply id websocketRequest.request), .message ⟨.text, [72]⟩] :=
  websocket_stream _ websocketRequest (by decide)
    [([⟨⟨1, false, false, false, true, 1, false⟩, [], none, [72], rfl, rfl, rfl⟩], ⟨.text, [72]⟩)]
    (by
      intro p hp
      rw [List.mem_singleton.mp hp]
      exact ⟨nofun, ⟨_, [], rfl, ⟨by decide, by simp⟩, rfl⟩, ⟨[], _, rfl, rfl, by simp⟩, rfl⟩)
    _ (by decide)

end Websocket

/-! ## Bodies -/

section Body

/-- `BodyCollectingConnection` while the body is incomplete. -/
structure Collecting where
  request : HttpRequest
  length : Nat
  received : List UInt8
  short : received.length < length

/-- The part of `BodyCollectingConnection::handle_read` behind the test of the length. -/
def collect (request : HttpRequest) (length : Nat) (received chunk : List UInt8) :
    Option Collecting × List Event :=
  if h : (received ++ chunk).length < length then (some ⟨request, length, received ++ chunk, h⟩, [])
  else (none, [.body request ((received ++ chunk).take length)])

-- `boost::lexical_cast<ssize_t>`, `none` for an exception
variable (lexicalCast : List UInt8 → Option Int)

/-- `length_` -/
def contentLength (request : HttpRequest) : Int :=
  (lexicalCast (request.header (text "Content-Length") [])).getD (-1)

/-- `HttpRequestBodyCollector::operator()` and `BodyCollectingConnection`. -/
def bodyHandler : RequestHandler Collecting Event where
  handle request input :=
    let length := contentLength lexicalCast request
    if length < 0 then
      (none, [.wrote (builderWrite .badRequest []), .wrote (text "No Content-Length header")])
    else collect request length.toNat [] input
  read c input := collect c.request c.length c.received input

variable {lexicalCast}

theorem collect_append (request : HttpRequest) (length : Nat) (received as bs : List UInt8) :
    collect request length received (as ++ bs) =
      (bodyHandler lexicalCast).goOn (collect request length received as) bs := by
  by_cases hall : (received ++ (as ++ bs)).length < length
  · have has : (received ++ as).length < length := by
      simp only [List.length_append] at hall ⊢
      omega
    simp only [collect, dif_pos hall, dif_pos has, RequestHandler.goOn, bodyHandler, List.append_assoc,
      List.append_nil]
  · by_cases has : (received ++ as).length < length
    · simp only [collect, dif_neg hall, dif_pos has, RequestHandler.goOn, bodyHandler,
        List.append_assoc, List.nil_append]
    · -- the body was complete before `bs`
      simp only [collect, dif_neg hall, dif_neg has, RequestHandler.goOn]
      rw [← List.append_assoc, List.take_append_of_le_length (by omega)]

theorem seamless_bodyHandler : (bodyHandler lexicalCast).Seamless where
  handle request as bs := by
    by_cases hneg : contentLength lexicalCast request < 0
    · simp [bodyHandler, RequestHandler.goOn, hneg]
    · simp only [bodyHandler, if_neg hneg]
      exact collect_append _ _ _ _ _
  nil c := by
    obtain ⟨request, length, received, h⟩ := c
    simp [bodyHandler, collect, h]
  append c as bs := collect_append _ _ _ _ _

/--
**A body is handed over once, and whole.** The handler gets the first `Content-Length` bytes behind the
request as soon as they are there, in whatever reads they come, and nothing before.
-/
theorem body_stream (t : RequestText) (length : Nat)
    (hlength : lexicalCast (t.request.header (text "Content-Length") []) = some (length : Int))
    (rest : List UInt8) (pieces : List (List UInt8)) (hpieces : pieces.flatten = t.bytes ++ rest) :
    HttpConnection.reads (bodyHandler lexicalCast) badRequestReply pieces =
      if rest.length < length then [] else [.body t.request (rest.take length)] := by
  have hcontent : contentLength lexicalCast t.request = length := by
    rw [contentLength, hlength, Option.getD_some]
  rw [reads_request seamless_bodyHandler t hpieces]
  simp only [bodyHandler, hcontent, if_neg (show ¬ (length : Int) < 0 by omega), Int.toNat_natCast,
    collect, List.nil_append]
  split <;> rfl

/-- A request with a body of two bytes. -/
def postRequest : RequestText where
  method := text "POST"
  uri := text "/http_body_echo"
  major := text "1"
  minor := text "0"
  items := [.field (text "Content-Length") (text "2")]
  method_ne := by decide
  method_token := by decide +kernel
  uri_valid := by decide +kernel
  major_ne := by decide
  major_digit := by decide +kernel
  minor_ne := by decide
  minor_digit := by decide +kernel
  items_valid := by
    rw [List.forall_mem_singleton, HeaderItem.Valid]
    decide +kernel
  first_field := by simp [HeaderItem.IsFold]

/-- The body in two reads, with a byte too many. -/
theorem body_stream_two :
    HttpConnection.reads (bodyHandler Decimal.signed?) badRequestReply
        [postRequest.bytes ++ [72], [105, 33]] = [.body postRequest.request [72, 105]] :=
  body_stream postRequest 2 (by decide) [72, 105, 33] _ (by decide)

end Body

end Tetra.Web
