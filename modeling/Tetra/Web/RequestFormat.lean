import Mathlib.Data.List.Induction
import Tetra.Web.Request

/-!
# The format of an HTTP request

What the request parser accepts is described here without its states: a request line, header fields,
and lines that begin with a blank and continue the value of the field before them. `parse_eq_accept_iff`
says that the parser accepts these texts and no others, and reads off what they say, as long as the
numbers of the version fit. An `int` overflows before the code of a `'0'` is taken off, so these have to
be 48 below the largest one.

Three things are not as one might expect: there is exactly one space behind the colon of a field, the
URI may be empty, and a continued value is joined without anything in between.
-/

namespace Tetra.Web

open Scanner RequestReader

/-! ## Texts -/

/-- A line of the header. -/
inductive HeaderItem
  | field (name value : List UInt8)
  | fold (blank value : List UInt8)

namespace HeaderItem

def Valid : HeaderItem → Prop
  | field name value => name ≠ [] ∧ (∀ c ∈ name, isToken c) ∧ ∀ c ∈ value, ¬ isCtl c
  | fold blank value => blank ≠ [] ∧ (∀ c ∈ blank, c = space ∨ c = tab) ∧ (∀ c ∈ value, ¬ isCtl c) ∧
      value.head? ≠ some space

def IsFold : HeaderItem → Prop
  | field _ _ => False
  | fold _ _ => True

def bytes : HeaderItem → List UInt8
  | field name value => name ++ ascii ':' :: space :: (value ++ [cr, lf])
  | fold blank value => blank ++ (value ++ [cr, lf])

/-- The headers with one more line. -/
def add (headers : List HttpHeader) : HeaderItem → List HttpHeader
  | field name value => headers ++ [⟨name, value⟩]
  | fold _ value => onBack (fun h => { h with value := h.value ++ value }) headers

end HeaderItem

/-- The text of a request. -/
structure RequestText where
  method : List UInt8
  uri : List UInt8
  major : List UInt8
  minor : List UInt8
  items : List HeaderItem
  method_ne : method ≠ []
  method_token : ∀ c ∈ method, isToken c
  uri_valid : ∀ c ∈ uri, c ≠ space ∧ ¬ isCtl c
  major_ne : major ≠ []
  major_digit : ∀ c ∈ major, isDigit c
  minor_ne : minor ≠ []
  minor_digit : ∀ c ∈ minor, isDigit c
  items_valid : ∀ i ∈ items, i.Valid
  first_field : ∀ i ∈ items.head?, ¬ i.IsFold

/-- The number that digits are. -/
def decimal (digits : List UInt8) : Nat :=
  digits.foldl (fun n c => n * 10 + (c.toNat - (ascii '0').toNat)) 0

/-- The number of the version that digits are, if there is room for it. -/
def version (digits : List UInt8) : Option Nat :=
  if decimal digits + (ascii '0').toNat < 2 ^ 31 then some (decimal digits) else none

namespace RequestText

variable (t : RequestText)

def bytes : List UInt8 :=
  t.method ++ space :: (t.uri ++ space :: (text "HTTP/" ++ (t.major ++ ascii '.' :: (t.minor ++
    cr :: lf :: (t.items.flatMap HeaderItem.bytes ++ [cr, lf])))))

def request : HttpRequest where
  method := t.method
  uri := t.uri
  httpVersionMajor := version t.major
  httpVersionMinor := version t.minor
  headers := t.items.foldl HeaderItem.add []

/-- Both numbers of the version fit an `int`, also while they are read. -/
def Fits : Prop := decimal t.major + 48 < 2 ^ 31 ∧ decimal t.minor + 48 < 2 ^ 31

end RequestText

/-- No number of the version has overflowed. -/
def HttpRequest.Defined (request : HttpRequest) : Prop :=
  request.httpVersionMajor.isSome ∧ request.httpVersionMinor.isSome

/-! ## Characters -/

variable {c : UInt8} {r : HttpRequest} {t : RequestReader} {as rest : List UInt8}

theorem ne_space_of_isToken (h : isToken c) : c ≠ space := by
  rintro rfl
  exact absurd h (by decide)

theorem ne_colon_of_isToken (h : isToken c) : c ≠ ascii ':' := by
  rintro rfl
  exact absurd h (by decide)

theorem ne_tab_of_isToken (h : isToken c) : c ≠ tab := by
  rintro rfl
  exact absurd h (by decide)

theorem ne_cr_of_isToken (h : isToken c) : c ≠ cr := by
  rintro rfl
  exact absurd h (by decide)

theorem ne_cr_of_not_isCtl (h : ¬ isCtl c) : c ≠ cr := by
  rintro rfl
  exact absurd h (by decide)

theorem ne_dot_of_isDigit (h : isDigit c) : c ≠ ascii '.' := by
  rintro rfl
  exact absurd h (by decide)

theorem ne_cr_of_isDigit (h : isDigit c) : c ≠ cr := by
  rintro rfl
  exact absurd h (by decide)

/-! ## The request line, segment by segment -/

/-- The parser in a state, with the request that it fills. -/
abbrev inState (state : RequestState) (r : HttpRequest) : RequestReader := ⟨state, r⟩

theorem accepts_methodStart :
    Accepts consume (inState .methodStart r) as t ↔
      ∃ c bs, isToken c ∧ as = c :: bs ∧
        Accepts consume (inState .method { r with method := r.method ++ [c] }) bs t := by
  cases as with
  | nil => simp
  | cons c bs =>
    by_cases hc : isToken c
    · have hstep : consume (inState .methodStart r) c =
          (.more, inState .method { r with method := r.method ++ [c] }) := by simp [consume, hc]
      simp [accepts_cons_more hstep, hc]
    · have hstep : consume (inState .methodStart r) c = (.reject, inState .methodStart r) := by
        simp [consume, hc]
      simp [not_accepts_cons_reject hstep, hc]

theorem accepts_method {m : List UInt8} :
    Accepts consume (inState .method { r with method := m }) as t ↔
      ∃ l bs, (∀ c ∈ l, isToken c) ∧ as = l ++ space :: bs ∧
        Accepts consume (inState .uri { r with method := m ++ l }) bs t := by
  refine accepts_collect_iff (fun c => isToken c) (fun m => inState .method { r with method := m })
    (fun m => inState .uri { r with method := m }) ?_ ?_ ?_
  · intro m c hc
    simp [consume, hc, ne_space_of_isToken hc]
  · intro m
    simp [consume]
  · intro m c hc hne
    simp [consume, hc, hne]

theorem accepts_uri {u : List UInt8} :
    Accepts consume (inState .uri { r with uri := u }) as t ↔
      ∃ l bs, (∀ c ∈ l, c ≠ space ∧ ¬ isCtl c) ∧ as = l ++ space :: bs ∧
        Accepts consume (inState .httpVersionH { r with uri := u ++ l }) bs t := by
  refine accepts_collect_iff (fun c => c ≠ space ∧ ¬ isCtl c)
    (fun u => inState .uri { r with uri := u })
    (fun u => inState .httpVersionH { r with uri := u }) ?_ ?_ ?_
  · rintro u c ⟨hne, hctl⟩
    simp [consume, hne, hctl]
  · intro u
    simp [consume]
  · intro u c hc hne
    have hctl : isCtl c := by
      by_contra h
      exact hc ⟨hne, h⟩
    simp [consume, hctl, hne]

/-- A state that expects one character. -/
theorem accepts_expect (s s' : RequestState) (a : UInt8)
    (hstep : ∀ b, consume (inState s r) b =
      if b = a then (.more, inState s' r) else (.reject, inState s r)) {as : List UInt8} :
    Accepts consume (inState s r) as t ↔ ∃ bs, as = a :: bs ∧ Accepts consume (inState s' r) bs t :=
  accepts_item_iff (by rw [hstep, if_pos rfl]) fun b hb => by rw [hstep, if_neg hb]

theorem accepts_slash :
    Accepts consume (inState .httpVersionSlash r) as t ↔
      ∃ bs, as = ascii '/' :: bs ∧ Accepts consume
        (inState .httpVersionMajorStart { r with httpVersionMajor := some 0, httpVersionMinor := some 0 }) bs t :=
  accepts_item_iff (by simp [consume]) fun b hb => by simp [consume, hb]

theorem accepts_literal :
    Accepts consume (inState .httpVersionH r) as t ↔
      ∃ bs, as = text "HTTP/" ++ bs ∧ Accepts consume
        (inState .httpVersionMajorStart { r with httpVersionMajor := some 0, httpVersionMinor := some 0 }) bs t := by
  have hH : ∀ as, Accepts consume (inState .httpVersionH r) as t ↔
      ∃ bs, as = ascii 'H' :: bs ∧ Accepts consume (inState .httpVersionT1 r) bs t :=
    fun _ => accepts_expect _ _ _ fun _ => rfl
  have hT1 : ∀ as, Accepts consume (inState .httpVersionT1 r) as t ↔
      ∃ bs, as = ascii 'T' :: bs ∧ Accepts consume (inState .httpVersionT2 r) bs t :=
    fun _ => accepts_expect _ _ _ fun _ => rfl
  have hT2 : ∀ as, Accepts consume (inState .httpVersionT2 r) as t ↔
      ∃ bs, as = ascii 'T' :: bs ∧ Accepts consume (inState .httpVersionP r) bs t :=
    fun _ => accepts_expect _ _ _ fun _ => rfl
  have hP : ∀ as, Accepts consume (inState .httpVersionP r) as t ↔
      ∃ bs, as = ascii 'P' :: bs ∧ Accepts consume (inState .httpVersionSlash r) bs t :=
    fun _ => accepts_expect _ _ _ fun _ => rfl
  simp only [hH, hT1, hT2, hP, accepts_slash]
  constructor
  · rintro ⟨_, rfl, _, rfl, _, rfl, _, rfl, bs, rfl, h⟩
    exact ⟨bs, rfl, h⟩
  · rintro ⟨bs, rfl, h⟩
    exact ⟨_, rfl, _, rfl, _, rfl, _, rfl, bs, rfl, h⟩

theorem withDigit_some (n : Nat) (c : UInt8) : withDigit (some n) c =
    if n * 10 + c.toNat < 2 ^ 31 then some (n * 10 + c.toNat - 48) else none := rfl

/-- The digits of a number of the version, one after the other. -/
theorem foldl_withDigit {l : List UInt8} (hne : l ≠ []) (hl : ∀ c ∈ l, isDigit c) :
    l.foldl withDigit (some 0) = version l := by
  have hzero : (ascii '0').toNat = 48 := rfl
  have hdigit : ∀ c ∈ l, 48 ≤ c.toNat := by
    intro c hc
    have hle := (Bool.and_eq_true _ _).mp (hl c hc)
    simpa [UInt8.le_iff_toNat_le, hzero] using hle.1
  induction l using List.reverseRecOn with
  | nil => exact absurd rfl hne
  | append_singleton l c ih =>
    have hc := hdigit c (by simp)
    have hlast : decimal (l ++ [c]) = decimal l * 10 + (c.toNat - 48) := by
      rw [decimal, decimal, List.foldl_append, List.foldl_cons, List.foldl_nil, hzero]
    rw [List.foldl_append, List.foldl_cons, List.foldl_nil, version, hlast, hzero]
    rcases eq_or_ne l [] with rfl | hl'
    · have hlt := UInt8.toNat_lt c
      rw [List.foldl_nil, withDigit_some, if_pos (by omega), show decimal [] = 0 from rfl,
        if_pos (by omega), Nat.zero_mul, Nat.zero_add, Nat.zero_add]
    · rw [ih hl' (fun x hx => hl x (List.mem_append_left _ hx))
        (fun x hx => hdigit x (List.mem_append_left _ hx)), version, hzero]
      by_cases hroom : decimal l + 48 < 2 ^ 31
      · rw [if_pos hroom, withDigit_some]
        by_cases hfits : decimal l * 10 + c.toNat < 2 ^ 31
        · rw [if_pos hfits, if_pos (by omega), Nat.add_sub_assoc hc]
        · rw [if_neg hfits, if_neg (by omega)]
      · rw [if_neg hroom, if_neg (by omega)]
        rfl

/-- The digits of a number, the first of which has a state of its own. -/
theorem accepts_digits (first loop next : RequestState) (sep : UInt8)
    (set : HttpRequest → Option Nat → HttpRequest) (get : HttpRequest → Option Nat)
    (hset : ∀ r n n', set (set r n) n' = set r n') (hget : ∀ r n, get (set r n) = n)
    (hfirst : ∀ r b, consume (inState first r) b =
      if isDigit b then (.more, inState loop (set r (withDigit (get r) b))) else (.reject, inState first r))
    (hloop : ∀ r b, consume (inState loop r) b =
      if b = sep then (.more, inState next r)
      else if isDigit b then (.more, inState loop (set r (withDigit (get r) b)))
      else (.reject, inState loop r))
    (hsep : ∀ b, isDigit b → b ≠ sep) (hzero : get r = some 0) :
    Accepts consume (inState first r) as t ↔
      ∃ l bs, l ≠ [] ∧ (∀ c ∈ l, isDigit c) ∧ as = l ++ sep :: bs ∧
        Accepts consume (inState next (set r (version l))) bs t := by
  have hspan : ∀ {n as}, Accepts consume (inState loop (set r n)) as t ↔
      ∃ l bs, (∀ c ∈ l, isDigit c) ∧ as = l ++ sep :: bs ∧
        Accepts consume (inState next (set r (l.foldl withDigit n))) bs t := by
    intro n as
    refine accepts_span_iff (fun c => isDigit c) (fun n => inState loop (set r n))
      (fun n => inState next (set r n)) withDigit ?_ ?_ ?_
    · intro n c hc
      rw [hloop, if_neg (hsep c hc), if_pos hc, hset, hget]
    · intro n
      rw [hloop, if_pos rfl]
    · intro n c hc hne
      rw [hloop, if_neg hne, if_neg hc]
  cases as with
  | nil =>
    simp only [not_accepts_nil, false_iff]
    rintro ⟨l, bs, -, -, heq, -⟩
    simp at heq
  | cons c as =>
    by_cases hc : isDigit c
    · rw [accepts_cons_more ((hfirst r c).trans (if_pos hc)), hspan]
      constructor
      · rintro ⟨l, bs, hl, rfl, h⟩
        have hdigits : ∀ x ∈ c :: l, isDigit x := List.forall_mem_cons.mpr ⟨hc, hl⟩
        refine ⟨c :: l, bs, by simp, hdigits, rfl, ?_⟩
        rwa [← foldl_withDigit (by simp) hdigits, List.foldl_cons, ← hzero]
      · rintro ⟨l, bs, hne, hl, heq, h⟩
        cases l with
        | nil => exact absurd rfl hne
        | cons d l =>
          obtain ⟨rfl, rfl⟩ := List.cons.inj heq
          refine ⟨l, bs, fun x hx => hl x (List.mem_cons_of_mem _ hx), rfl, ?_⟩
          rwa [← foldl_withDigit (by simp) hl, List.foldl_cons, ← hzero] at h
    · have hstep := (hfirst r c).trans (if_neg hc)
      simp only [not_accepts_cons_reject hstep, false_iff]
      rintro ⟨l, bs, hne, hl, heq, -⟩
      cases l with
      | nil => exact absurd rfl hne
      | cons d l =>
        obtain ⟨rfl, -⟩ := List.cons.inj heq
        exact hc (hl _ List.mem_cons_self)

theorem accepts_major (hzero : r.httpVersionMajor = some 0) :
    Accepts consume (inState .httpVersionMajorStart r) as t ↔
      ∃ l bs, l ≠ [] ∧ (∀ c ∈ l, isDigit c) ∧ as = l ++ ascii '.' :: bs ∧
        Accepts consume (inState .httpVersionMinorStart { r with httpVersionMajor := version l }) bs t :=
  accepts_digits .httpVersionMajorStart .httpVersionMajor .httpVersionMinorStart (ascii '.')
    (fun r n => { r with httpVersionMajor := n }) (·.httpVersionMajor) (fun _ _ _ => rfl) (fun _ _ => rfl)
    (fun _ _ => rfl) (fun _ _ => rfl) (fun _ hb => ne_dot_of_isDigit hb) hzero

theorem accepts_minor (hzero : r.httpVersionMinor = some 0) :
    Accepts consume (inState .httpVersionMinorStart r) as t ↔
      ∃ l bs, l ≠ [] ∧ (∀ c ∈ l, isDigit c) ∧ as = l ++ cr :: bs ∧
        Accepts consume (inState .expectingNewline1 { r with httpVersionMinor := version l }) bs t :=
  accepts_digits .httpVersionMinorStart .httpVersionMinor .expectingNewline1 cr
    (fun r n => { r with httpVersionMinor := n }) (·.httpVersionMinor) (fun _ _ _ => rfl) (fun _ _ => rfl)
    (fun _ _ => rfl) (fun _ _ => rfl) (fun _ hb => ne_cr_of_isDigit hb) hzero

/-! ## The header -/

variable {hs : List HttpHeader} {h : HttpHeader}

theorem accepts_newline2 :
    Accepts consume (inState .expectingNewline2 r) as t ↔
      ∃ bs, as = lf :: bs ∧ Accepts consume (inState .headerLineStart r) bs t :=
  accepts_expect .expectingNewline2 .headerLineStart lf fun _ => rfl

theorem accepts_value {v : List UInt8} :
    Accepts consume (inState .headerValue { r with headers := hs ++ [{ h with value := v }] }) as t ↔
      ∃ l bs, (∀ c ∈ l, ¬ isCtl c) ∧ as = l ++ cr :: lf :: bs ∧
        Accepts consume (inState .headerLineStart { r with headers := hs ++ [{ h with value := v ++ l }] })
          bs t := by
  have hcollect : Accepts consume (inState .headerValue { r with headers := hs ++ [{ h with value := v }] })
      as t ↔ ∃ l bs, (∀ c ∈ l, ¬ isCtl c) ∧ as = l ++ cr :: bs ∧ Accepts consume
        (inState .expectingNewline2 { r with headers := hs ++ [{ h with value := v ++ l }] }) bs t := by
    refine accepts_collect_iff (fun c => ¬ isCtl c)
      (fun v => inState .headerValue { r with headers := hs ++ [{ h with value := v }] })
      (fun v => inState .expectingNewline2 { r with headers := hs ++ [{ h with value := v }] }) ?_ ?_ ?_
    · intro v c hc
      simp [consume, hc, ne_cr_of_not_isCtl hc]
    · intro v
      simp [consume]
    · intro v c hc hne
      simp only [not_not] at hc
      simp [consume, hc, hne]
  rw [hcollect]
  simp only [accepts_newline2]
  constructor
  · rintro ⟨l, _, hl, rfl, bs, rfl, h⟩
    exact ⟨l, bs, hl, rfl, h⟩
  · rintro ⟨l, bs, hl, rfl, h⟩
    exact ⟨l, _, hl, rfl, bs, rfl, h⟩

theorem accepts_name {n : List UInt8} :
    Accepts consume (inState .headerName { r with headers := hs ++ [⟨n, []⟩] }) as t ↔
      ∃ l value bs, (∀ c ∈ l, isToken c) ∧ (∀ c ∈ value, ¬ isCtl c) ∧
        as = l ++ ascii ':' :: space :: (value ++ cr :: lf :: bs) ∧
          Accepts consume (inState .headerLineStart { r with headers := hs ++ [⟨n ++ l, value⟩] }) bs t := by
  have hcollect : Accepts consume (inState .headerName { r with headers := hs ++ [⟨n, []⟩] }) as t ↔
      ∃ l bs, (∀ c ∈ l, isToken c) ∧ as = l ++ ascii ':' :: bs ∧ Accepts consume
        (inState .spaceBeforeHeaderValue { r with headers := hs ++ [⟨n ++ l, []⟩] }) bs t := by
    refine accepts_collect_iff (fun c => isToken c)
      (fun n => inState .headerName { r with headers := hs ++ [⟨n, []⟩] })
      (fun n => inState .spaceBeforeHeaderValue { r with headers := hs ++ [⟨n, []⟩] }) ?_ ?_ ?_
    · intro n c hc
      simp [consume, hc, ne_colon_of_isToken hc]
    · intro n
      simp [consume]
    · intro n c hc hne
      simp [consume, hc, hne]
  have hspace : ∀ {r : HttpRequest} {as : List UInt8},
      Accepts consume (inState .spaceBeforeHeaderValue r) as t ↔
        ∃ bs, as = space :: bs ∧ Accepts consume (inState .headerValue r) bs t :=
    accepts_expect .spaceBeforeHeaderValue .headerValue space fun _ => rfl
  have hvalue : ∀ {n as}, Accepts consume (inState .headerValue { r with headers := hs ++ [⟨n, []⟩] }) as t ↔
      ∃ l bs, (∀ c ∈ l, ¬ isCtl c) ∧ as = l ++ cr :: lf :: bs ∧
        Accepts consume (inState .headerLineStart { r with headers := hs ++ [⟨n, l⟩] }) bs t := by
    intro n as
    exact accepts_value (h := ⟨n, []⟩) (v := [])
  rw [hcollect]
  simp only [hspace, hvalue]
  constructor
  · rintro ⟨l, _, hl, rfl, _, rfl, value, bs, hv, rfl, h⟩
    exact ⟨l, value, bs, hl, hv, rfl, h⟩
  · rintro ⟨l, value, bs, hl, hv, rfl, h⟩
    exact ⟨l, _, hl, rfl, _, rfl, value, bs, hv, rfl, h⟩

/-- Behind the blanks of a line that continues the last value comes the rest of it. -/
theorem accepts_continued (hblank : ∀ c ∈ as.head?, ¬ (c = space ∨ c = tab)) :
    Accepts consume (inState .headerLws { r with headers := hs ++ [h] }) as t ↔
      ∃ value bs, (∀ c ∈ value, ¬ isCtl c) ∧ as = value ++ cr :: lf :: bs ∧
        Accepts consume (inState .headerLineStart
          { r with headers := hs ++ [{ h with value := h.value ++ value }] }) bs t := by
  cases as with
  | nil =>
    simp only [not_accepts_nil, false_iff]
    rintro ⟨value, bs, -, heq, -⟩
    simp at heq
  | cons c as =>
    have hbl : ¬ (c = space ∨ c = tab) := hblank c rfl
    by_cases hcr : c = cr
    · -- nothing is added
      have hstep : consume (inState .headerLws { r with headers := hs ++ [h] }) c =
          (.more, inState .expectingNewline2 { r with headers := hs ++ [h] }) := by simp [consume, hcr]
      rw [accepts_cons_more hstep, accepts_newline2]
      constructor
      · rintro ⟨bs, rfl, hb⟩
        exact ⟨[], bs, by simp, by rw [hcr]; rfl, by simpa using hb⟩
      · rintro ⟨value, bs, hvalue, heq, hb⟩
        cases value with
        | nil =>
          obtain ⟨-, rfl⟩ := List.cons.inj heq
          exact ⟨bs, rfl, by simpa using hb⟩
        | cons v value =>
          obtain ⟨rfl, -⟩ := List.cons.inj heq
          exact absurd (hvalue c List.mem_cons_self) (by rw [hcr]; decide)
    · by_cases hctl : isCtl c
      · have hstep : consume (inState .headerLws { r with headers := hs ++ [h] }) c =
            (.reject, inState .headerLws { r with headers := hs ++ [h] }) := by
          simp [consume, hcr, hbl, hctl]
        simp only [not_accepts_cons_reject hstep, false_iff]
        rintro ⟨value, bs, hvalue, heq, -⟩
        cases value with
        | nil => exact hcr (List.cons.inj heq).1
        | cons v value =>
          obtain ⟨rfl, -⟩ := List.cons.inj heq
          exact hvalue c List.mem_cons_self hctl
      · have hstep : consume (inState .headerLws { r with headers := hs ++ [h] }) c = (.more,
            inState .headerValue { r with headers := hs ++ [{ h with value := h.value ++ [c] }] }) := by
          simp [consume, hcr, hbl, hctl]
        rw [accepts_cons_more hstep, accepts_value]
        constructor
        · rintro ⟨l, bs, hl, rfl, hb⟩
          exact ⟨c :: l, bs, List.forall_mem_cons.mpr ⟨hctl, hl⟩, rfl, by simpa using hb⟩
        · rintro ⟨value, bs, hvalue, heq, hb⟩
          cases value with
          | nil => exact absurd (List.cons.inj heq).1 hcr
          | cons v value =>
            obtain ⟨rfl, rfl⟩ := List.cons.inj heq
            exact ⟨value, bs, fun x hx => hvalue x (List.mem_cons_of_mem _ hx), rfl, by simpa using hb⟩

/-- A line that continues the last value: blanks, and the rest of the line. -/
theorem accepts_lws :
    Accepts consume (inState .headerLws { r with headers := hs ++ [h] }) as t ↔
      ∃ blank value bs, (∀ c ∈ blank, c = space ∨ c = tab) ∧ (∀ c ∈ value, ¬ isCtl c) ∧
        value.head? ≠ some space ∧ as = blank ++ (value ++ cr :: lf :: bs) ∧
          Accepts consume (inState .headerLineStart
            { r with headers := hs ++ [{ h with value := h.value ++ value }] }) bs t := by
  have hskip : ∀ c, c = space ∨ c = tab → consume (inState .headerLws { r with headers := hs ++ [h] }) c =
      (.more, inState .headerLws { r with headers := hs ++ [h] }) := by
    intro c hc
    have hcr : c ≠ cr := by rcases hc with rfl | rfl <;> decide
    simp [consume, hcr, hc]
  rw [accepts_skip_iff (fun c => c = space ∨ c = tab) hskip]
  constructor
  · rintro ⟨blank, rest, hblank, hrest, rfl, ha⟩
    obtain ⟨value, bs, hvalue, rfl, hb⟩ := (accepts_continued hrest).mp ha
    refine ⟨blank, value, bs, hblank, hvalue, ?_, rfl, hb⟩
    intro hhead
    cases value with
    | nil => simp at hhead
    | cons c value => exact hrest c rfl (.inl (Option.some.inj hhead))
  · rintro ⟨blank, value, bs, hblank, hvalue, hhead, rfl, hb⟩
    have hrest : ∀ c ∈ (value ++ cr :: lf :: bs).head?, ¬ (c = space ∨ c = tab) := by
      cases value with
      | nil =>
        intro c hc
        obtain rfl := Option.some.inj hc
        decide
      | cons v value =>
        intro c hc
        obtain rfl := Option.some.inj hc
        rintro (rfl | rfl)
        · exact hhead rfl
        · exact hvalue tab List.mem_cons_self (by decide)
    exact ⟨blank, _, hblank, hrest, rfl, (accepts_continued hrest).mpr ⟨value, bs, hvalue, rfl, hb⟩⟩

/-! ## Whole texts -/

theorem length_bytes_pos (i : HeaderItem) : 0 < i.bytes.length := by
  cases i <;> simp only [HeaderItem.bytes, List.length_append, List.length_cons] <;> omega

theorem add_ne_nil {i : HeaderItem} (hfold : hs = [] → ¬ i.IsFold) : i.add hs ≠ [] := by
  cases i with
  | field name value => simp [HeaderItem.add]
  | fold blank value =>
    rcases List.eq_nil_or_concat' hs with rfl | ⟨init, h, rfl⟩
    · exact absurd trivial (hfold rfl)
    · simp [HeaderItem.add]

/-- The lines are read one by one. -/
theorem accepts_item {i : HeaderItem} {bs : List UInt8} (hi : i.Valid) (hfold : r.headers = [] → ¬ i.IsFold)
    (hb : Accepts consume (inState .headerLineStart { r with headers := i.add r.headers }) bs t) :
    Accepts consume (inState .headerLineStart r) (i.bytes ++ bs) t := by
  cases i with
  | field name value =>
    obtain ⟨hne, hname, hvalue⟩ := hi
    cases name with
    | nil => exact absurd rfl hne
    | cons c l =>
      obtain ⟨hc, hl⟩ := List.forall_mem_cons.mp hname
      have hstep : consume (inState .headerLineStart r) c =
          (.more, inState .headerName { r with headers := r.headers ++ [⟨[c], []⟩] }) := by
        simp [consume, hc, ne_cr_of_isToken hc, ne_space_of_isToken hc, ne_tab_of_isToken hc]
      have hbytes : (HeaderItem.field (c :: l) value).bytes ++ bs =
          c :: (l ++ ascii ':' :: space :: (value ++ cr :: lf :: bs)) := by simp [HeaderItem.bytes]
      rw [hbytes, accepts_cons_more hstep]
      exact accepts_name.mpr ⟨l, value, bs, hl, hvalue, rfl, hb⟩
  | fold blank value =>
    obtain ⟨hne, hblank, hvalue, hhead⟩ := hi
    have hheaders : r.headers ≠ [] := fun h => hfold h trivial
    obtain ⟨hs, h, heq⟩ := (List.eq_nil_or_concat' r.headers).resolve_left hheaders
    cases blank with
    | nil => exact absurd rfl hne
    | cons c l =>
      obtain ⟨hc, hl⟩ := List.forall_mem_cons.mp hblank
      have hcr : c ≠ cr := by rcases hc with rfl | rfl <;> decide
      have hstep : consume (inState .headerLineStart r) c = (.more, inState .headerLws r) := by
        simp [consume, hcr, hheaders, hc]
      have hbytes : (HeaderItem.fold (c :: l) value).bytes ++ bs = c :: (l ++ (value ++ cr :: lf :: bs)) := by
        simp [HeaderItem.bytes]
      rw [HeaderItem.add, heq, onBack_concat] at hb
      obtain ⟨method, uri, major, minor, headers⟩ := r
      obtain rfl : headers = hs ++ [h] := heq
      rw [hbytes, accepts_cons_more hstep]
      exact (accepts_lws (r := ⟨method, uri, major, minor, []⟩)).mpr
        ⟨l, value, bs, hl, hvalue, hhead, rfl, hb⟩

/-- At the start of a line, the header ends or a line is read. -/
theorem item_of_accepts (ha : Accepts consume (inState .headerLineStart r) as t) :
    (as = [cr, lf] ∧ t = inState .expectingNewline3 r) ∨
      ∃ (i : HeaderItem) (bs : List UInt8), i.Valid ∧ (r.headers = [] → ¬ i.IsFold) ∧ as = i.bytes ++ bs ∧
        Accepts consume (inState .headerLineStart { r with headers := i.add r.headers }) bs t := by
  cases as with
  | nil => exact absurd ha not_accepts_nil
  | cons c as =>
    by_cases hcr : c = cr
    · have hstep : consume (inState .headerLineStart r) c = (.more, inState .expectingNewline3 r) := by
        simp [consume, hcr]
      rw [accepts_cons_more hstep] at ha
      cases as with
      | nil => exact absurd ha not_accepts_nil
      | cons d as =>
        by_cases hlf : d = lf
        · have hend : consume (inState .expectingNewline3 r) d = (.accept, inState .expectingNewline3 r) := by
            simp [consume, hlf]
          obtain ⟨rfl, rfl⟩ := (accepts_cons_accept hend).mp ha
          exact .inl ⟨by rw [hcr, hlf], rfl⟩
        · have hend : consume (inState .expectingNewline3 r) d = (.reject, inState .expectingNewline3 r) := by
            simp [consume, hlf]
          exact absurd ha (not_accepts_cons_reject hend)
    · refine .inr ?_
      by_cases hbl : r.headers ≠ [] ∧ (c = space ∨ c = tab)
      · have hstep : consume (inState .headerLineStart r) c = (.more, inState .headerLws r) := by
          simp [consume, hcr, hbl]
        rw [accepts_cons_more hstep] at ha
        obtain ⟨hs, h, heq⟩ := (List.eq_nil_or_concat' r.headers).resolve_left hbl.1
        obtain ⟨method, uri, major, minor, headers⟩ := r
        obtain rfl : headers = hs ++ [h] := heq
        obtain ⟨blank, value, bs, hblank, hvalue, hhead, rfl, hb⟩ :=
          (accepts_lws (r := ⟨method, uri, major, minor, []⟩)).mp ha
        refine ⟨.fold (c :: blank) value, bs, ⟨by simp, List.forall_mem_cons.mpr ⟨hbl.2, hblank⟩, hvalue,
          hhead⟩, fun h0 => absurd h0 hbl.1, by simp [HeaderItem.bytes], ?_⟩
        simpa only [HeaderItem.add, onBack_concat] using hb
      · by_cases hc : isToken c
        · have hstep : consume (inState .headerLineStart r) c =
              (.more, inState .headerName { r with headers := r.headers ++ [⟨[c], []⟩] }) := by
            simp [consume, hc, ne_cr_of_isToken hc, ne_space_of_isToken hc, ne_tab_of_isToken hc]
          rw [accepts_cons_more hstep] at ha
          obtain ⟨l, value, bs, hl, hvalue, rfl, hb⟩ := accepts_name.mp ha
          exact ⟨.field (c :: l) value, bs, ⟨by simp, List.forall_mem_cons.mpr ⟨hc, hl⟩, hvalue⟩,
            fun _ h => h, by simp [HeaderItem.bytes], hb⟩
        · have hstep : consume (inState .headerLineStart r) c = (.reject, inState .headerLineStart r) := by
            simp only [consume, if_neg hcr, if_neg hbl, if_neg hc]
          exact absurd ha (not_accepts_cons_reject hstep)

/-- **The header.** From the start of a line on, the parser accepts lines and the empty line. -/
theorem accepts_lines (as : List UInt8) (r : HttpRequest) :
    Accepts consume (inState .headerLineStart r) as t ↔
      ∃ items : List HeaderItem, (∀ i ∈ items, i.Valid) ∧
        (r.headers = [] → ∀ i ∈ items.head?, ¬ i.IsFold) ∧
          as = items.flatMap HeaderItem.bytes ++ [cr, lf] ∧
            t = inState .expectingNewline3 { r with headers := items.foldl HeaderItem.add r.headers } := by
  constructor
  · intro ha
    induction hn : as.length using Nat.strongRecOn generalizing as r with
    | ind n ih =>
      rcases item_of_accepts ha with ⟨rfl, rfl⟩ | ⟨i, bs, hi, hfold, rfl, hb⟩
      · exact ⟨[], by simp, by simp, rfl, rfl⟩
      · have hpos := length_bytes_pos i
        obtain ⟨items, hitems, -, rfl, rfl⟩ := ih bs.length (by simp at hn; omega) bs _ hb rfl
        exact ⟨i :: items, List.forall_mem_cons.mpr ⟨hi, hitems⟩,
          fun h0 j hj => by obtain rfl := Option.some.inj hj; exact hfold h0, by simp, rfl⟩
  · rintro ⟨items, hitems, hfold, rfl, rfl⟩
    induction items generalizing r with
    | nil =>
      rw [List.flatMap_nil, List.nil_append, accepts_cons_more (by simp [consume]; rfl),
        accepts_cons_accept (by simp [consume]; rfl)]
      exact ⟨rfl, rfl⟩
    | cons i items ih =>
      have hadd : i.add r.headers ≠ [] := add_ne_nil fun h0 => hfold h0 i rfl
      rw [List.flatMap_cons, List.append_assoc]
      refine accepts_item (hitems i List.mem_cons_self) (fun h0 => hfold h0 i rfl) ?_
      exact ih _ (fun j hj => hitems j (List.mem_cons_of_mem _ hj)) fun h0 => absurd h0 hadd

theorem accepts_newline1 {r : HttpRequest} {as : List UInt8} {t : RequestReader} :
    Accepts consume (inState .expectingNewline1 r) as t ↔
      ∃ bs, as = lf :: bs ∧ Accepts consume (inState .headerLineStart r) bs t :=
  accepts_expect .expectingNewline1 .headerLineStart lf fun _ => rfl

/-- What the parser accepts is a text, and the request is what the text says. -/
theorem exists_text {input rest : List UInt8} {state : RequestState} {request : HttpRequest}
    (hparse : parse start input = (.accept, ⟨state, request⟩, rest)) :
    ∃ text : RequestText, input = text.bytes ++ rest ∧ request = text.request := by
  obtain ⟨front, hinput, hfront⟩ := scan_eq_accept_iff.mp hparse
  obtain ⟨c, _, hc, rfl, hrest⟩ := accepts_methodStart.mp hfront
  obtain ⟨m, _, hm, rfl, hline1⟩ := (accepts_method (r := {}) (m := [c])).mp hrest
  obtain ⟨u, _, hu, rfl, hversion⟩ := (accepts_uri (r := { method := c :: m }) (u := [])).mp hline1
  obtain ⟨_, rfl, hnumbers⟩ := accepts_literal.mp hversion
  obtain ⟨major, _, hmajor, hmajord, rfl, hsecond⟩ := (accepts_major rfl).mp hnumbers
  obtain ⟨minor, _, hminor, hminord, rfl, hend⟩ := (accepts_minor rfl).mp hsecond
  obtain ⟨_, rfl, hheader⟩ := accepts_newline1.mp hend
  obtain ⟨items, hitems, hfirst, rfl, ht⟩ := (accepts_lines _ _).mp hheader
  obtain ⟨-, rfl⟩ := RequestReader.mk.inj ht
  exact ⟨⟨c :: m, u, major, minor, items, by simp, List.forall_mem_cons.mpr ⟨hc, hm⟩, hu, hmajor,
    hmajord, hminor, hminord, hitems, hfirst rfl⟩, by simp [hinput, RequestText.bytes], rfl⟩

/-- A text is accepted, whatever is behind it. -/
theorem parse_text (t : RequestText) (rest : List UInt8) :
    ∃ state, parse start (t.bytes ++ rest) = (.accept, ⟨state, t.request⟩, rest) := by
  obtain ⟨method, u, major, minor, items, hmethod, htoken, hu, hmajor, hmajord, hminor, hminord, hitems,
    hfirst⟩ := t
  refine ⟨.expectingNewline3, scan_eq_accept_iff.mpr ⟨_, rfl, ?_⟩⟩
  cases method with
  | nil => exact absurd rfl hmethod
  | cons c m =>
    obtain ⟨hc, hm⟩ := List.forall_mem_cons.mp htoken
    refine accepts_methodStart.mpr ⟨c, _, hc, rfl, ?_⟩
    refine (accepts_method (r := {}) (m := [c])).mpr ⟨m, _, hm, rfl, ?_⟩
    refine (accepts_uri (r := { method := c :: m }) (u := [])).mpr ⟨u, _, hu, rfl, ?_⟩
    refine accepts_literal.mpr ⟨_, rfl, ?_⟩
    refine (accepts_major rfl).mpr ⟨major, _, hmajor, hmajord, rfl, ?_⟩
    refine (accepts_minor rfl).mpr ⟨minor, _, hminor, hminord, rfl, accepts_newline1.mpr ⟨_, rfl, ?_⟩⟩
    exact (accepts_lines _ _).mpr ⟨items, hitems, fun _ => hfirst, rfl, rfl⟩

theorem defined_request_iff (t : RequestText) : t.request.Defined ↔ t.Fits := by
  have hsome : ∀ digits, (version digits).isSome ↔ decimal digits + 48 < 2 ^ 31 := by
    intro digits
    unfold version
    split
    · next h => exact iff_of_true rfl h
    · next h => exact iff_of_false (by simp) h
  exact and_congr (hsome t.major) (hsome t.minor)

/--
**The format of a request.** Where no number overflows, the parser accepts what is the text of a
request, and nothing else; it leaves what is behind the text, and the request is what the text says.
-/
theorem parse_eq_accept_iff (input rest : List UInt8) (request : HttpRequest) :
    (∃ state, parse start input = (.accept, ⟨state, request⟩, rest)) ∧ request.Defined ↔
      ∃ text : RequestText, text.Fits ∧ input = text.bytes ++ rest ∧ request = text.request := by
  constructor
  · rintro ⟨⟨state, hparse⟩, hdefined⟩
    obtain ⟨t, hinput, rfl⟩ := exists_text hparse
    exact ⟨t, (defined_request_iff t).mp hdefined, hinput, rfl⟩
  · rintro ⟨t, hfits, rfl, rfl⟩
    exact ⟨parse_text t rest, (defined_request_iff t).mpr hfits⟩

end Tetra.Web
