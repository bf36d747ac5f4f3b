import Mathlib.Algebra.Group.Nat.Defs
import Tetra.Lib.Scanner

/-!
# HTTP requests

`http_request.hpp` and `http_request_parser.cpp`: a request, and the parser that takes one character
at a time. A `std::string` is a list of bytes. Whether a `char` has a sign does not matter: from 128
on it is neither a character nor a control character to the parser.

The numbers of the version are `int`s. Where one overflows C++ says nothing about what follows; the
number is `none` from there on.
-/

namespace Tetra.Web

open Scanner

/-! ## Characters -/

def ascii (c : Char) : UInt8 := UInt8.ofNat c.toNat

/-- The bytes of a string literal. -/
def text (s : String) : List UInt8 := s.toList.map ascii

/-- `'\r'` -/
def cr : UInt8 := 13

/-- `'\n'` -/
def lf : UInt8 := 10

/-- `'\t'` -/
def tab : UInt8 := 9

def space : UInt8 := 32

/-- `is_char` -/
def isChar (c : UInt8) : Bool := c.toNat ≤ 127

/-- `is_ctl` -/
def isCtl (c : UInt8) : Bool := c.toNat ≤ 31 || c.toNat == 127

/-- `is_tspecial` -/
def isTspecial (c : UInt8) : Bool :=
  [ascii '(', ascii ')', ascii '<', ascii '>', ascii '@', ascii ',', ascii ';', ascii ':', ascii '\\',
    ascii '"', ascii '/', ascii '[', ascii ']', ascii '?', ascii '=', ascii '\x7b', ascii '\x7d',
    space, tab].contains c

/-- `is_digit` -/
def isDigit (c : UInt8) : Bool := ascii '0' ≤ c && c ≤ ascii '9'

/-- `!is_char(input) || is_ctl(input) || is_tspecial(input)`, the other way round. -/
def isToken (c : UInt8) : Bool := isChar c && !isCtl c && !isTspecial c

/-! ## Requests -/

/-- `HttpHeader` -/
structure HttpHeader where
  name : List UInt8 := []
  value : List UInt8 := []
  deriving DecidableEq, Repr

/-- `HttpRequest`; the query parameters are with `parseUri`. -/
structure HttpRequest where
  method : List UInt8 := []
  uri : List UInt8 := []
  httpVersionMajor : Option Nat := some 0
  httpVersionMinor : Option Nat := some 0
  headers : List HttpHeader := []
  deriving DecidableEq, Repr

/-- A change of `headers.back()`. -/
def onBack (change : HttpHeader → HttpHeader) : List HttpHeader → List HttpHeader
  | [] => []
  | [h] => [change h]
  | h :: hs => h :: onBack change hs

@[simp] theorem onBack_concat (change : HttpHeader → HttpHeader) (hs : List HttpHeader)
    (h : HttpHeader) : onBack change (hs ++ [h]) = hs ++ [change h] := by
  induction hs with
  | nil => rfl
  | cons g hs ih =>
    cases hs with
    | nil => rfl
    | cons g' hs => simpa [onBack] using ih

/-! ## The parser -/

/-- `HttpRequestParser::state` -/
inductive RequestState
  | methodStart
  | method
  | uri
  | httpVersionH
  | httpVersionT1
  | httpVersionT2
  | httpVersionP
  | httpVersionSlash
  | httpVersionMajorStart
  | httpVersionMajor
  | httpVersionMinorStart
  | httpVersionMinor
  | expectingNewline1
  | headerLineStart
  | headerLws
  | headerName
  | spaceBeforeHeaderValue
  | headerValue
  | expectingNewline2
  | expectingNewline3
  deriving DecidableEq, Repr

/-- `HttpRequestParser` with the request that it fills. -/
structure RequestReader where
  state : RequestState
  request : HttpRequest
  deriving DecidableEq, Repr

namespace RequestReader

/-- `HttpRequestParser::HttpRequestParser` with a new request. -/
def start : RequestReader := ⟨.methodStart, {}⟩

/-- `req.http_version_major * 10 + input - '0'`, from left to right; `none` where an `int` overflows. -/
def withDigit (n : Option Nat) (input : UInt8) : Option Nat := do
  let sum := (← n) * 10 + input.toNat
  if sum < 2 ^ 31 then some (sum - (ascii '0').toNat) else none

/-- `HttpRequestParser::consume` -/
def consume (p : RequestReader) (input : UInt8) : Verdict × RequestReader :=
  let req := p.request
  let reject : Verdict × RequestReader := (.reject, p)
  let expect (c : UInt8) (next : RequestState) : Verdict × RequestReader :=
    if input = c then (.more, ⟨next, req⟩) else reject
  let push (change : HttpHeader → HttpHeader) : HttpRequest :=
    { req with headers := onBack change req.headers }
  match p.state with
  | .methodStart =>
    if isToken input then (.more, ⟨.method, { req with method := req.method ++ [input] }⟩) else reject
  | .method =>
    if input = space then (.more, ⟨.uri, req⟩)
    else if isToken input then (.more, ⟨.method, { req with method := req.method ++ [input] }⟩)
    else reject
  | .uri =>
    if input = space then (.more, ⟨.httpVersionH, req⟩)
    else if isCtl input then reject
    else (.more, ⟨.uri, { req with uri := req.uri ++ [input] }⟩)
  | .httpVersionH => expect (ascii 'H') .httpVersionT1
  | .httpVersionT1 => expect (ascii 'T') .httpVersionT2
  | .httpVersionT2 => expect (ascii 'T') .httpVersionP
  | .httpVersionP => expect (ascii 'P') .httpVersionSlash
  | .httpVersionSlash =>
    if input = ascii '/' then
      (.more, ⟨.httpVersionMajorStart, { req with httpVersionMajor := some 0, httpVersionMinor := some 0 }⟩)
    else reject
  | .httpVersionMajorStart =>
    if isDigit input then
      (.more, ⟨.httpVersionMajor, { req with httpVersionMajor := withDigit req.httpVersionMajor input }⟩)
    else reject
  | .httpVersionMajor =>
    if input = ascii '.' then (.more, ⟨.httpVersionMinorStart, req⟩)
    else if isDigit input then
      (.more, ⟨.httpVersionMajor, { req with httpVersionMajor := withDigit req.httpVersionMajor input }⟩)
    else reject
  | .httpVersionMinorStart =>
    if isDigit input then
      (.more, ⟨.httpVersionMinor, { req with httpVersionMinor := withDigit req.httpVersionMinor input }⟩)
    else reject
  | .httpVersionMinor =>
    if input = cr then (.more, ⟨.expectingNewline1, req⟩)
    else if isDigit input then
      (.more, ⟨.httpVersionMinor, { req with httpVersionMinor := withDigit req.httpVersionMinor input }⟩)
    else reject
  | .expectingNewline1 => expect lf .headerLineStart
  | .headerLineStart =>
    if input = cr then (.more, ⟨.expectingNewline3, req⟩)
    else if req.headers ≠ [] ∧ (input = space ∨ input = tab) then (.more, ⟨.headerLws, req⟩)
    else if isToken input then
      (.more, ⟨.headerName, { req with headers := req.headers ++ [⟨[input], []⟩] }⟩)
    else reject
  | .headerLws =>
    if input = cr then (.more, ⟨.expectingNewline2, req⟩)
    else if input = space ∨ input = tab then (.more, p)
    else if isCtl input then reject
    else (.more, ⟨.headerValue, push fun h => { h with value := h.value ++ [input] }⟩)
  | .headerName =>
    if input = ascii ':' then (.more, ⟨.spaceBeforeHeaderValue, req⟩)
    else if isToken input then
      (.more, ⟨.headerName, push fun h => { h with name := h.name ++ [input] }⟩)
    else reject
  | .spaceBeforeHeaderValue => expect space .headerValue
  | .headerValue =>
    if input = cr then (.more, ⟨.expectingNewline2, req⟩)
    else if isCtl input then reject
    else (.more, ⟨.headerValue, push fun h => { h with value := h.value ++ [input] }⟩)
  | .expectingNewline2 => expect lf .headerLineStart
  | .expectingNewline3 => (if input = lf then .accept else .reject, p)

/-- `HttpRequestParser::parse` -/
def parse (p : RequestReader) (input : List UInt8) : Verdict × RequestReader × List UInt8 :=
  scan consume p input

end RequestReader

end Tetra.Web
