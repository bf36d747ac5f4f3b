import Mathlib.Data.List.Induction
import Tetra.Web.Request

/-!
# The URI of a request

`HttpRequest::parse_uri`. The regular expression `(.*?)(?:\?(.*?))?` matches every URI: the path is
what is in front of the first `?`, and the query what is behind it. The query is split at every `&`,
and each piece at its first `=`; a later piece overwrites an earlier one of the same name.

`parseUri_render` is the round trip: parameters that are written with `=` and `&` are read back.
-/

namespace Tetra.Web

/-- `std::map<std::string, std::string>` -/
abbrev QueryParams := List (List UInt8 × List UInt8)

/-- `query_params[name] = value` -/
def QueryParams.set (params : QueryParams) (name value : List UInt8) : QueryParams :=
  (name, value) :: params.filter (·.1 ≠ name)

/-- `path`, `query` and `query_params` of a request. -/
structure UriParts where
  path : List UInt8 := []
  query : List UInt8 := []
  queryParams : QueryParams := []
  deriving DecidableEq, Repr

/-- `boost::split` at every `sep`. -/
def splitAt (sep : UInt8) : List UInt8 → List (List UInt8)
  | [] => [[]]
  | c :: cs =>
    if c = sep then [] :: splitAt sep cs
    else
      match splitAt sep cs with
      | [] => [[c]]
      | piece :: pieces => (c :: piece) :: pieces

/-- What is in front of the first `sep` and what is behind it, if there is one: `find_first_of`. -/
def cutAt (sep : UInt8) : List UInt8 → List UInt8 × Option (List UInt8)
  | [] => ([], none)
  | c :: cs => if c = sep then ([], some cs) else (c :: (cutAt sep cs).1, (cutAt sep cs).2)

/-- One turn of the loop over the pieces of the query. -/
def addPair (params : QueryParams) (pair : List UInt8) : QueryParams :=
  match cutAt (ascii '=') pair with
  | (name, some value) => params.set name value
  | (name, none) => if name ≠ [] then params.set name [] else params

/-- `HttpRequest::parse_uri`, on a request without parameters. -/
def parseUri (uri : List UInt8) : UriParts :=
  match cutAt (ascii '?') uri with
  | (path, none) => { path }
  | (path, some query) =>
    { path, query, queryParams := (splitAt (ascii '&') query).foldl addPair [] }

namespace UriParts

/-- `has_query_param` -/
def hasQueryParam (u : UriParts) (name : List UInt8) : Bool := (u.queryParams.lookup name).isSome

/-- `get_query_param_value_or_default` for strings. -/
def getQueryParam (u : UriParts) (name default : List UInt8) : List UInt8 :=
  (u.queryParams.lookup name).getD default

end UriParts

/-! ## Lookups -/

section Lookup

variable {params : QueryParams} {name name' value : List UInt8}

/-- A value that is set is found, and the others are as before. -/
@[simp] theorem QueryParams.lookup_set_self : (params.set name value).lookup name = some value := by
  simp [QueryParams.set]

@[simp] theorem QueryParams.lookup_set_of_ne (h : name' ≠ name) :
    (params.set name value).lookup name' = params.lookup name' := by
  have hfilter : ∀ params : QueryParams,
      (params.filter (·.1 ≠ name)).lookup name' = params.lookup name' := by
    intro params
    induction params with
    | nil => rfl
    | cons p params ih =>
      by_cases hp : p.1 = name
      · have hbeq : (name' == p.1) = false := by
          rw [hp]
          exact beq_false_of_ne h
        rw [List.filter_cons_of_neg (by simpa using hp), ih, List.lookup_cons, hbeq]
      · rw [List.filter_cons_of_pos (by simpa using hp), List.lookup_cons, List.lookup_cons, ih]
  rw [QueryParams.set, List.lookup_cons, beq_false_of_ne h, hfilter]

end Lookup

/-! ## Cutting and splitting -/

section Split

variable {sep : UInt8}

/-- The cut is at the first `sep`. -/
theorem cutAt_append : ∀ {front : List UInt8} (behind : List UInt8), sep ∉ front →
    cutAt sep (front ++ sep :: behind) = (front, some behind)
  | [], behind, _ => by rw [List.nil_append, cutAt, if_pos rfl]
  | c :: front, behind, h => by
    obtain ⟨hc, hfront⟩ := not_or.mp (List.mem_cons.not.mp h)
    rw [List.cons_append, cutAt, if_neg (Ne.symm hc), cutAt_append behind hfront]

/-- Without a `sep` there is one piece, and each `sep` ends one. -/
theorem splitAt_of_notMem : ∀ {piece : List UInt8}, sep ∉ piece → splitAt sep piece = [piece]
  | [], _ => rfl
  | c :: piece, h => by
    obtain ⟨hc, hpiece⟩ := not_or.mp (List.mem_cons.not.mp h)
    rw [splitAt, if_neg (Ne.symm hc), splitAt_of_notMem hpiece]

theorem splitAt_append : ∀ {piece : List UInt8} (behind : List UInt8), sep ∉ piece →
    splitAt sep (piece ++ sep :: behind) = piece :: splitAt sep behind
  | [], behind, _ => by rw [List.nil_append, splitAt, if_pos rfl]
  | c :: piece, behind, h => by
    obtain ⟨hc, hpiece⟩ := not_or.mp (List.mem_cons.not.mp h)
    rw [List.cons_append, splitAt, if_neg (Ne.symm hc), splitAt_append behind hpiece]

end Split

/-! ## The round trip -/

/-- A parameter, as a link has it. -/
def renderPair (pair : List UInt8 × List UInt8) : List UInt8 := pair.1 ++ ascii '=' :: pair.2

/-- The parameters as a query. -/
def renderQuery : List (List UInt8 × List UInt8) → List UInt8
  | [] => []
  | [pair] => renderPair pair
  | pair :: next :: pairs => renderPair pair ++ ascii '&' :: renderQuery (next :: pairs)

/-- Names and values that do not run into each other. -/
def Separate (pair : List UInt8 × List UInt8) : Prop :=
  ascii '=' ∉ pair.1 ∧ ascii '&' ∉ pair.1 ∧ ascii '&' ∉ pair.2

instance (pair : List UInt8 × List UInt8) : Decidable (Separate pair) :=
  inferInstanceAs (Decidable (_ ∧ _))

variable {pair : List UInt8 × List UInt8} {pairs : List (List UInt8 × List UInt8)}

theorem Separate.notMem_renderPair (h : Separate pair) : ascii '&' ∉ renderPair pair := by
  obtain ⟨-, hname, hvalue⟩ := h
  rw [renderPair, List.mem_append, List.mem_cons]
  rintro (hmem | heq | hmem)
  · exact hname hmem
  · exact absurd heq (by decide)
  · exact hvalue hmem

/-- A query is split into the parameters it was made of. -/
theorem splitAt_renderQuery (hne : pairs ≠ []) (h : ∀ p ∈ pairs, Separate p) :
    splitAt (ascii '&') (renderQuery pairs) = pairs.map renderPair := by
  induction pairs with
  | nil => exact absurd rfl hne
  | cons p pairs ih =>
    have hp := (h p List.mem_cons_self).notMem_renderPair
    cases pairs with
    | nil => rw [renderQuery, splitAt_of_notMem hp, List.map_singleton]
    | cons q pairs =>
      have htail := ih (List.cons_ne_nil q pairs) fun r hr => h r (List.mem_cons_of_mem _ hr)
      rw [renderQuery, splitAt_append _ hp, htail]
      rfl

theorem addPair_renderPair (params : QueryParams) (h : Separate pair) :
    addPair params (renderPair pair) = params.set pair.1 pair.2 := by
  rw [addPair, renderPair, cutAt_append _ h.1]

/-- What the loop has stored: for each name, the last value. -/
theorem lookup_addPairs (h : ∀ p ∈ pairs, Separate p) (name : List UInt8) :
    ((pairs.map renderPair).foldl addPair []).lookup name = pairs.reverse.lookup name := by
  induction pairs using List.reverseRecOn with
  | nil => rfl
  | append_singleton pairs p ih =>
    have hpairs := ih fun q hq => h q (by simp [hq])
    rw [List.map_append, List.foldl_append, List.map_singleton, List.foldl_cons, List.foldl_nil,
      addPair_renderPair _ (h p (by simp)), List.reverse_append, List.reverse_singleton,
      List.singleton_append, List.lookup_cons]
    by_cases hname : name = p.1
    · subst hname
      rw [QueryParams.lookup_set_self, beq_self_eq_true]
    · rw [QueryParams.lookup_set_of_ne hname, hpairs, beq_false_of_ne hname]

/--
**Round trip.** Whatever parameters are written behind a path, each can be read back: of several values
of one name, the last.
-/
theorem parseUri_render {path : List UInt8} (hpath : ascii '?' ∉ path) (h : ∀ p ∈ pairs, Separate p) :
    (parseUri (path ++ ascii '?' :: renderQuery pairs)).path = path ∧
      ∀ name default, (parseUri (path ++ ascii '?' :: renderQuery pairs)).getQueryParam name default =
        (pairs.reverse.lookup name).getD default := by
  rw [parseUri, cutAt_append _ hpath]
  refine ⟨rfl, ?_⟩
  intro name default
  rw [UriParts.getQueryParam]
  cases hpairs : pairs with
  | nil => rfl
  | cons p ps =>
    rw [← hpairs, ← lookup_addPairs h, ← splitAt_renderQuery (by rw [hpairs]; simp) h]

example : (parseUri (text "/stream?topic=/a&type=png&topic=/b")).getQueryParam (text "topic") [] =
    text "/b" := by decide

end Tetra.Web
