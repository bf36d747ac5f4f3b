import Tetra.Serial.Command
import Tetra.Serial.Frames

/-!
# The fields of an accepted reply

`str2int` has no length to go by: it reads a reply from its first byte to the `ETX`, collects the
digits between two `;` in its scratch array, and adds their value up. What is not a digit is
skipped, but the flag of the reply is one. So the values are right exactly if no field has more
digits than the scratch array has cells (`str2int_exact_iff`).
-/

namespace Tetra.Serial

open Arrival Memory Decimal

/-! ## Digits -/

/-- One digit more, one place less behind it. -/
theorem ofDigits_take_succ {ds : List Nat} {m : Nat} (hlt : m < ds.length) :
    Nat.ofDigits 10 (ds.take (m + 1)).reverse * 10 ^ (ds.length - (m + 1)) =
      Nat.ofDigits 10 (ds.take m).reverse * 10 ^ (ds.length - m) +
        ds[m] * 10 ^ (ds.length - m - 1) := by
  rw [List.take_add_one, List.getElem?_eq_getElem hlt, Option.toList_some, List.reverse_concat,
    Nat.ofDigits_cons, show ds.length - m = (ds.length - m - 1) + 1 by omega, Nat.pow_succ,
    show ds.length - (m + 1) = ds.length - m - 1 by omega]
  push_cast
  ring

section AddDigits

variable {tmp : Buffer} {dist : List UInt32} {index : Nat} {ds : List Nat} {d₀ : UInt32}

theorem load_of_digits (hds : ∀ d ∈ ds, d < 10) (htmp : ds.map digit <+: tmp) {m : Nat}
    (hlt : m < ds.length) : ∃ c, load tmp m = .ok c ∧ c.toNat - 48 = ds[m] := by
  refine ⟨digit ds[m], load_of_getElem? ?_, ?_⟩
  · obtain ⟨rest, rfl⟩ := htmp
    rw [List.getElem?_append_left (by simpa using hlt)]
    simp [hlt]
  · rw [toNat_digit (hds _ (List.getElem_mem hlt))]
    omega

/-- The first `m` turns of the loop that adds up the digits. -/
theorem addDigits_turns (hds : ∀ d ∈ ds, d < 10) (hshort : ds.length ≤ 20)
    (htmp : ds.map digit <+: tmp) (hdist : dist[index]? = some d₀) {m : Nat} (hm : m ≤ ds.length) :
    (List.range m).foldlM (fun dist k => do
      let c ← load tmp k
      let d ← load dist index
      store dist index (d + UInt32.ofNat ((c.toNat - 48) * mypow 10 (ds.length - k - 1)))) dist =
        .ok (dist.set index (d₀ + UInt32.ofNat
          (Nat.ofDigits 10 (ds.take m).reverse * 10 ^ (ds.length - m)))) := by
  obtain ⟨hindex, hget⟩ := List.getElem?_eq_some_iff.mp hdist
  induction m with
  | zero => simp [← hget]
  | succ m ih =>
    obtain ⟨c, hload, hdigit⟩ := load_of_digits hds htmp hm
    rw [List.range_succ, List.foldlM_append, ih (Nat.le_of_succ_le hm), ok_bind, List.foldlM_cons,
      hload, ok_bind, load_of_getElem? (List.getElem?_set_self hindex), ok_bind,
      store_of_lt (by rwa [List.length_set]), hdigit, mypow_ten (by omega), List.set_set,
      ofDigits_take_succ hm, UInt32.ofNat_add, UInt32.add_assoc]
    rfl

/-- The digits that are in the scratch array add their value. -/
theorem addDigits_eq (hds : ∀ d ∈ ds, d < 10) (hshort : ds.length ≤ 20)
    (htmp : ds.map digit <+: tmp) (hdist : dist[index]? = some d₀) :
    addDigits tmp ds.length dist index =
      .ok (dist.set index (d₀ + UInt32.ofNat (Nat.ofDigits 10 ds.reverse))) := by
  have hall := addDigits_turns hds hshort htmp hdist le_rfl
  rw [List.take_length, Nat.sub_self, pow_zero, Nat.mul_one] at hall
  exact hall

end AddDigits

/-! ## Fields -/

/-- The digits of a field. -/
def fieldDigits (field : List UInt8) : List Nat := field.filterMap digit?

/-- The number that the digits of a field make up. -/
def fieldValue (field : List UInt8) : Nat := Nat.ofDigits 10 (fieldDigits field).reverse

/-- The fields of a buffer, from its first byte up to the `ETX`. -/
def fields (data : Buffer) : List (List UInt8) := (data.takeWhile (· ≠ etx)).splitOn semicolon

theorem digit?_of_digit {c : UInt8} (h : 48 ≤ c ∧ c ≤ 57) :
    ∃ d, c = digit d ∧ digit? c = some d := by
  have hlow : 48 ≤ c.toNat := UInt8.le_iff_toNat_le.mp h.1
  have hhigh : c.toNat ≤ 57 := UInt8.le_iff_toNat_le.mp h.2
  refine ⟨c.toNat - 48, ?_, if_pos ⟨hlow, hhigh⟩⟩
  rw [← UInt8.toNat_inj, toNat_digit (by omega)]
  omega

theorem digit?_of_other {c : UInt8} (h : ¬ (48 ≤ c ∧ c ≤ 57)) : digit? c = none := by
  refine if_neg fun hc => h ⟨?_, ?_⟩
  · exact UInt8.le_iff_toNat_le.mpr hc.1
  · exact UInt8.le_iff_toNat_le.mpr hc.2

theorem lt_of_mem_fieldDigits {field : List UInt8} {d : Nat} (h : d ∈ fieldDigits field) : d < 10 := by
  obtain ⟨c, -, hc⟩ := List.mem_filterMap.mp h
  rw [digit?] at hc
  split at hc
  · obtain rfl := Option.some.inj hc
    omega
  · simp at hc

/-- The fields of `bs`, the first of which has `field` in front. -/
def fieldsFrom (field bs : List UInt8) : List (List UInt8) :=
  (bs.splitOn semicolon).modifyHead (field ++ ·)

/-- The split collects the bytes of a field in reverse. -/
theorem fieldsFrom_eq (field bs : List UInt8) :
    fieldsFrom field bs = List.splitOnPPrepend (· == semicolon) bs field.reverse := by
  rw [List.splitOnPPrepend_eq_modifyHead, List.reverse_reverse]
  rfl

theorem fieldsFrom_nil (field : List UInt8) : fieldsFrom field [] = [field] := by
  rw [fieldsFrom_eq, List.splitOnPPrepend_nil, List.reverse_reverse]

theorem fieldsFrom_empty (bs : List UInt8) : fieldsFrom [] bs = bs.splitOn semicolon :=
  fieldsFrom_eq [] bs

theorem fieldsFrom_semicolon (field bs : List UInt8) :
    fieldsFrom field (semicolon :: bs) = field :: fieldsFrom [] bs := by
  have hsplit := @List.splitOnPPrepend_cons_pos _ (· == semicolon) semicolon bs field.reverse
    (beq_self_eq_true semicolon)
  rw [List.reverse_reverse] at hsplit
  rw [fieldsFrom_eq, hsplit, fieldsFrom_empty]
  rfl

theorem fieldsFrom_cons {c : UInt8} (h : c ≠ semicolon) (field bs : List UInt8) :
    fieldsFrom field (c :: bs) = fieldsFrom (field ++ [c]) bs := by
  have hsplit := @List.splitOnPPrepend_cons_neg _ (· == semicolon) c bs field.reverse
    (beq_eq_false_iff_ne.mpr h)
  rw [fieldsFrom_eq, hsplit, fieldsFrom_eq, List.reverse_append, List.reverse_singleton,
    List.singleton_append]

theorem prefix_of_fieldsFrom (field bs : List UInt8) : ∃ f ∈ fieldsFrom field bs, field <+: f := by
  obtain ⟨g, gs, hsplit⟩ := List.exists_cons_of_ne_nil (List.splitOnP_ne_nil (· == semicolon) bs)
  rw [fieldsFrom, List.splitOn, hsplit, List.modifyHead_cons]
  exact ⟨field ++ g, List.mem_cons_self, List.prefix_append field g⟩

theorem length_splitOn_le (bs : List UInt8) : (bs.splitOn semicolon).length ≤ bs.length + 1 := by
  rw [List.splitOn]
  induction bs with
  | nil => exact le_rfl
  | cons b bs ih =>
    rw [List.splitOnP_cons_eq_if_modifyHead]
    split
    · rw [List.length_cons, List.length_cons]
      omega
    · rw [List.length_modifyHead, List.length_cons]
      omega

/-! ## The scan -/

/-- What a scan of the fields makes of `n` cells that are zero. -/
def scanned (dist : List UInt32) (n : Nat) (fields : List (List UInt8)) : Except Fault (List UInt32) :=
  if ∀ f ∈ fields, (fieldDigits f).length ≤ 10 then
    .ok (dist ++ fields.map (fun f => UInt32.ofNat (fieldValue f)) ++
      List.replicate (n - fields.length) 0)
  else .error (.store 10)

section Scan

variable {tmp : Buffer} {dist : List UInt32} {field : List UInt8} {n i : Nat}

theorem scanned_nil : scanned dist n [] = .ok (dist ++ List.replicate n 0) := by
  simp [scanned]

theorem scanned_cons (hfield : (fieldDigits field).length ≤ 10) (fs : List (List UInt8)) :
    scanned dist n (field :: fs) = scanned (dist ++ [UInt32.ofNat (fieldValue field)]) (n - 1) fs := by
  unfold scanned
  by_cases hfs : ∀ f ∈ fs, (fieldDigits f).length ≤ 10
  · have hall : ∀ f ∈ field :: fs, (fieldDigits f).length ≤ 10 :=
      List.forall_mem_cons.mpr ⟨hfield, hfs⟩
    rw [if_pos hall, if_pos hfs, List.map_cons, List.length_cons, Nat.sub_sub, Nat.add_comm 1,
      List.append_assoc dist [_], List.singleton_append]
  · rw [if_neg (fun h => hfs (List.forall_mem_cons.mp h).2), if_neg hfs]

theorem scanned_of_long {f : List UInt8} {fs : List (List UInt8)} (hf : f ∈ fs)
    (hlong : 10 < (fieldDigits f).length) : scanned dist n fs = .error (.store 10) :=
  if_neg fun h => absurd (h f hf) (by omega)

/-- Too many digits stay too many, whatever comes behind them. -/
theorem scanned_of_full (hlong : 10 < (fieldDigits field).length) (bs : List UInt8) :
    scanned dist n (fieldsFrom field bs) = .error (.store 10) := by
  obtain ⟨f, hf, hfirst⟩ := prefix_of_fieldsFrom field bs
  have hle : (fieldDigits field).length ≤ (fieldDigits f).length :=
    (hfirst.filterMap digit?).length_le
  exact scanned_of_long hf (by omega)

theorem length_fieldDigits_le (htmp : tmp.length = 10)
    (hfilled : (fieldDigits field).map digit <+: tmp) : (fieldDigits field).length ≤ 10 := by
  rw [← htmp, ← List.length_map digit]
  exact hfilled.length_le

theorem addDigits_field (htmp : tmp.length = 10) (hfilled : (fieldDigits field).map digit <+: tmp)
    (hn : 0 < n) :
    addDigits tmp (fieldDigits field).length (dist ++ List.replicate n 0) dist.length =
      .ok (dist ++ [UInt32.ofNat (fieldValue field)] ++ List.replicate (n - 1) 0) := by
  obtain ⟨n, rfl⟩ := Nat.exists_eq_add_one_of_ne_zero (show n ≠ 0 by omega)
  have hlength := length_fieldDigits_le htmp hfilled
  have hcell : (dist ++ List.replicate (n + 1) 0)[dist.length]? = some (0 : UInt32) := by
    rw [List.getElem?_append_right le_rfl, Nat.sub_self]
    rfl
  rw [addDigits_eq (fun d hd => lt_of_mem_fieldDigits hd) (by omega) hfilled hcell, UInt32.zero_add,
    List.set_append_right _ _ le_rfl, Nat.sub_self, List.replicate_succ, List.set_cons_zero,
    List.append_assoc, List.singleton_append]
  rfl

theorem prefix_set {ds : List UInt8} (c : UInt8) (h : ds <+: tmp) (hroom : ds.length < tmp.length) :
    ds ++ [c] <+: tmp.set ds.length c := by
  obtain ⟨rest, rfl⟩ := h
  cases rest with
  | nil => simp at hroom
  | cons r rest =>
    rw [List.set_append_right _ _ le_rfl, Nat.sub_self, List.set_cons_zero]
    exact ⟨rest, by simp⟩

theorem str2intLoop_digit {j index : Nat} {c : UInt8} {cs : List UInt8} (hdigit : 48 ≤ c ∧ c ≤ 57) :
    str2intLoop tmp j dist index i (c :: cs) =
      if j < tmp.length then str2intLoop (tmp.set j c) (j + 1) dist index (i + 1) cs
      else .error (.store j) := by
  rw [str2intLoop, if_pos hdigit]
  by_cases hroom : j < tmp.length
  · rw [if_pos hroom, store_of_lt hroom, ok_bind]
  · rw [if_neg hroom, store_of_not_lt hroom, error_bind]

theorem fieldDigits_concat (field : List UInt8) {c : UInt8} (hdigit : 48 ≤ c ∧ c ≤ 57) :
    ∃ d, c = digit d ∧ fieldDigits (field ++ [c]) = fieldDigits field ++ [d] := by
  obtain ⟨d, hc, hvalue⟩ := digit?_of_digit hdigit
  exact ⟨d, hc, by simp [fieldDigits, hvalue]⟩

/-- `str2int` on the rest `bs` of a frame, behind the part `field` of the field it is in. -/
theorem str2intLoop_fields {bs after : List UInt8} (hbs : etx ∉ bs) (htmp : tmp.length = 10)
    (hfilled : (fieldDigits field).map digit <+: tmp) (hroom : (fieldsFrom field bs).length ≤ n) :
    str2intLoop tmp (fieldDigits field).length (dist ++ List.replicate n 0) dist.length i
        (bs ++ etx :: after) =
      scanned dist n (fieldsFrom field bs) := by
  induction bs generalizing tmp dist field n i with
  | nil =>
    have hetx : ¬ (48 ≤ etx ∧ etx ≤ 57) ∧ etx ≠ semicolon := by decide
    rw [fieldsFrom_nil] at hroom ⊢
    rw [List.nil_append, str2intLoop, if_neg hetx.1, if_neg hetx.2, if_pos rfl,
      addDigits_field htmp hfilled hroom, scanned_cons (length_fieldDigits_le htmp hfilled),
      scanned_nil]
  | cons c bs ih =>
    have hbs' : etx ∉ bs := fun h => hbs (List.mem_cons_of_mem c h)
    have hetx : c ≠ etx := fun h => hbs (h ▸ List.mem_cons_self)
    rw [List.cons_append]
    by_cases hdigit : 48 ≤ c ∧ c ≤ 57
    · -- the digit goes to the scratch array
      have hother : c ≠ semicolon := fun h => absurd (h ▸ hdigit) (by decide)
      obtain ⟨d, hc, hdigits⟩ := fieldDigits_concat field hdigit
      have hlength : (fieldDigits (field ++ [c])).length = (fieldDigits field).length + 1 := by
        rw [hdigits, List.length_append, List.length_singleton]
      rw [fieldsFrom_cons hother] at hroom ⊢
      rw [str2intLoop_digit hdigit, ← hlength]
      by_cases hfull : (fieldDigits field).length < tmp.length
      · have hset := prefix_set c hfilled (by rwa [List.length_map])
        rw [List.length_map] at hset
        rw [if_pos hfull]
        refine ih hbs' (by rwa [List.length_set]) ?_ hroom
        rwa [hdigits, List.map_append, List.map_singleton, ← hc]
      · have hle := length_fieldDigits_le htmp hfilled
        rw [if_neg hfull, scanned_of_full (by omega), show (fieldDigits field).length = 10 by omega]
    · rw [str2intLoop, if_neg hdigit]
      by_cases hsemicolon : c = semicolon
      · -- the field ends
        obtain rfl := hsemicolon
        rw [fieldsFrom_semicolon] at hroom ⊢
        rw [List.length_cons] at hroom
        have htail := @ih tmp (dist ++ [UInt32.ofNat (fieldValue field)]) [] (n - 1) (i + 1) hbs' htmp
          List.nil_prefix (by omega)
        rw [List.length_append, List.length_singleton] at htail
        rw [if_pos rfl, addDigits_field htmp hfilled (by omega), ok_bind,
          scanned_cons (length_fieldDigits_le htmp hfilled)]
        exact htail
      · -- the byte is skipped
        have hdigits : fieldDigits (field ++ [c]) = fieldDigits field := by
          simp [fieldDigits, digit?_of_other hdigit]
        rw [fieldsFrom_cons hsemicolon] at hroom ⊢
        rw [if_neg hsemicolon, if_neg hetx, ← hdigits]
        exact ih hbs' htmp (by rwa [hdigits]) hroom

end Scan

/-- `str2int` is a scan of the fields, if there are cells for all of them. -/
theorem str2int_fields {bs after : List UInt8} (hbs : etx ∉ bs)
    (hroom : (bs.splitOn semicolon).length ≤ 255) :
    str2int (bs ++ etx :: after) (List.replicate 255 0) = scanned [] 255 (bs.splitOn semicolon) := by
  have hscan := @str2intLoop_fields (List.replicate 10 0) [] [] 255 0 bs after hbs (by simp)
    List.nil_prefix (by rwa [fieldsFrom_empty])
  rw [fieldsFrom_empty] at hscan
  exact hscan

/-! ## Accepted replies -/

/-- What `get_response` has accepted is a reply at the front of the buffer. -/
theorem reply_of_accepted {data data' : Buffer} {port rest : Port} (h0 : 0 < data.length)
    (h : getResponse data port = .ok (0, data', rest)) :
    ∃ body, etx ∉ body ∧ (okReply body).length ≤ data.length ∧
      data' = okReply body ++ data.drop (okReply body).length := by
  have hfits : (delimited port).frame.length ≤ data.length := by
    by_contra hnot
    obtain ⟨i, hi⟩ := getResponse_of_not_fits h0 hnot
    rw [hi] at h
    simp at h
  have hresponse := getResponse_of_fits h0 hfits
  rw [h] at hresponse
  simp only [Except.ok.injEq, Prod.mk.injEq] at hresponse
  obtain ⟨f, front, rest', hfront, rfl⟩ := verdict_delimited_iff.mp hresponse.1.symm
  rw [delimited_framed hfront] at hfits
  rw [getResponse_framed hfits hfront] at h
  simp only [Except.ok.injEq, Prod.mk.injEq, true_and] at h
  exact ⟨f.body, f.body_free, hfits, h.1.symm⟩

/--
`str2int` ends with the values of the fields in a buffer, without a look at what is behind the first
`ETX` of it.
-/
def ReadExactly (data : Buffer) : Prop :=
  ∃ dist, str2int data (List.replicate 255 0) = .ok dist ∧
    (∀ after, str2int (data.takeWhile (· ≠ etx) ++ etx :: after) (List.replicate 255 0) = .ok dist) ∧
    ∀ i < 255, dist[i]? = some (UInt32.ofNat (((fields data)[i]?.map fieldValue).getD 0))

theorem scanned_eq_ok {n : Nat} {fs : List (List UInt8)} {dist : List UInt32}
    (h : scanned [] n fs = .ok dist) (hlength : fs.length ≤ n) {i : Nat} (hi : i < n) :
    dist[i]? = some (UInt32.ofNat ((fs[i]?.map fieldValue).getD 0)) := by
  rw [scanned] at h
  split at h
  · obtain rfl := Except.ok.inj h
    rw [List.nil_append]
    rcases lt_or_ge i fs.length with hlt | hge
    · rw [List.getElem?_append_left (by rwa [List.length_map]), List.getElem?_map,
        List.getElem?_eq_getElem hlt]
      rfl
    · rw [List.getElem?_append_right (by rwa [List.length_map]), List.length_map,
        List.getElem?_replicate_of_lt (by omega), List.getElem?_eq_none hge]
      rfl
  · simp at h

theorem takeWhile_of_free {bs after : List UInt8} (hbs : etx ∉ bs) :
    (bs ++ etx :: after).takeWhile (· ≠ etx) = bs := by
  rw [List.takeWhile_append_of_pos fun c hc => by
    rw [decide_eq_true_eq]
    rintro rfl
    exact hbs hc]
  simp

theorem readExactly_iff {bs after : List UInt8} (hbs : etx ∉ bs) (hroom : bs.length < 255) :
    ReadExactly (bs ++ etx :: after) ↔
      ∀ f ∈ fields (bs ++ etx :: after), (fieldDigits f).length ≤ 10 := by
  have hfields : fields (bs ++ etx :: after) = bs.splitOn semicolon := by
    rw [fields, takeWhile_of_free hbs]
  have hcount : (bs.splitOn semicolon).length ≤ 255 := by
    have hle := length_splitOn_le bs
    omega
  have hscan : ∀ after', str2int (bs ++ etx :: after') (List.replicate 255 0) =
      scanned [] 255 (fields (bs ++ etx :: after)) := by
    intro after'
    rw [str2int_fields hbs hcount, hfields]
  constructor
  · rintro ⟨dist, hok, -⟩ f hf
    by_contra hlong
    rw [hscan, scanned_of_long hf (by omega)] at hok
    simp at hok
  · intro hshort
    obtain ⟨dist, hdist⟩ : ∃ dist, scanned [] 255 (fields (bs ++ etx :: after)) = .ok dist :=
      ⟨_, if_pos hshort⟩
    refine ⟨dist, by rw [hscan, hdist], fun after' => ?_, fun i hi => ?_⟩
    · rw [takeWhile_of_free hbs, hscan, hdist]
    · exact scanned_eq_ok hdist (by rwa [hfields]) hi

/--
**`str2int` reads the fields of an accepted reply exactly if no field has more than ten digits, the
flag being the first digit of the first field.**
-/
theorem str2int_exact_iff (data data' : Buffer) (port rest : Port) (hsize : data.length = 256)
    (haccepted : getResponse data port = .ok (0, data', rest)) :
    ReadExactly data' ↔ ∀ f ∈ fields data', (fieldDigits f).length ≤ 10 := by
  obtain ⟨body, hbody, hlength, rfl⟩ := reply_of_accepted (by omega) haccepted
  have hroom : (stx :: flagOk :: body).length < 255 := by
    simp only [okReply, List.length_append, List.length_cons, List.length_nil] at hlength ⊢
    omega
  rw [okReply_append]
  exact readExactly_iff (etx_not_mem_reply hbody) hroom

/-- A reply with the values 7 and 12. -/
def twoFields : Framed := ⟨[], [0x37, 0x3b, 0x31, 0x32], by decide, by decide⟩

theorem str2int_exact_twoFields :
    ReadExactly (okReply twoFields.body ++ (List.replicate 256 0).drop (okReply twoFields.body).length) := by
  have haccepted := @getResponse_framed (List.replicate 256 0) (twoFields.bytes.map (.item · true)) []
    twoFields (by rw [List.length_replicate]; decide) (delivers_map_item _ true)
  exact (str2int_exact_iff (List.replicate 256 0) _ _ _ List.length_replicate haccepted).mpr
    (by decide +kernel)

/-- A parameter with the ten digits 1000000000. -/
def tenDigits : Framed := ⟨[], 0x31 :: List.replicate 9 0x30, by decide, by decide⟩

/-- Its last digit is the eleventh, and is stored behind the scratch array. -/
theorem str2int_not_exact :
    getResponse (List.replicate 256 0) (tenDigits.bytes.map (.item · true)) =
        .ok (0, okReply tenDigits.body ++ (List.replicate 256 0).drop 14, []) ∧
      str2int (okReply tenDigits.body ++ (List.replicate 256 0).drop 14) (List.replicate 255 0) =
        .error (.store 10) ∧
      ¬ ReadExactly (okReply tenDigits.body ++ (List.replicate 256 0).drop 14) := by
  have haccepted := @getResponse_framed (List.replicate 256 0) (tenDigits.bytes.map (.item · true)) []
    tenDigits (by rw [List.length_replicate]; decide) (delivers_map_item _ true)
  have hfault : str2int (okReply tenDigits.body ++ (List.replicate 256 0).drop 14)
      (List.replicate 255 0) = .error (.store 10) := by
    decide +kernel
  rw [List.append_nil] at haccepted
  refine ⟨haccepted, hfault, ?_⟩
  rintro ⟨dist, hok, -⟩
  rw [hfault] at hok
  simp at hok

end Tetra.Serial
