import Tetra.Lib.Machine
import Tetra.Web.Request

/-!
# Writing to a connection

`HttpConnection::write`, `write_pending` and `handle_write`. Any thread may write; what is written
while an operation of the socket is under way is left in `pending_write_buffers_`, and the next
operation takes all of it. The machine has the calls of `write`, the bytes that the socket takes of an
operation, the end of an operation and the errors of a read, in any order.

`socket_written` says what a client can have got in any run: the beginning of what was written, in the
order of the calls. `Placed.held` says that the memory of a buffer outlives its operation, and
`handleWrite_survives_iff` when the end of an operation ends the program.
-/

namespace Tetra.Web

/-- An `async_write` under way: what the socket has not taken yet, and the bound resources. -/
structure Operation (ρ : Type*) where
  remaining : List UInt8
  resources : List ρ
  deriving DecidableEq, Repr

/-- `HttpConnection`, as far as it writes, with the operations of its socket and the bytes that these
have passed on. -/
structure ConnectionWriter (ρ : Type*) where
  writeInProgress : Bool := false
  pendingWriteBuffers : List (List UInt8) := []
  pendingWriteResources : List ρ := []
  lastError : Bool := false
  operations : List (Operation ρ) := []
  socket : List UInt8 := []
  deriving DecidableEq, Repr

/-- What can happen to a connection. -/
inductive WriteEvent (ρ : Type*)
  | write (buffers : List (List UInt8)) (resource : Option ρ)
  /-- The socket takes bytes of an operation. -/
  | transfer (i n : Nat)
  /-- An operation ends, and `handle_write` is called. -/
  | handleWrite (i : Nat) (error : Bool)
  /-- `handle_read_raw` with an error. -/
  | readError
  deriving DecidableEq, Repr

namespace ConnectionWriter

variable {ρ : Type*}

/-- `HttpConnection::write_pending`; `none` for the exception. -/
def writePending (s : ConnectionWriter ρ) : Option (ConnectionWriter ρ) :=
  if s.lastError then none
  else
    some { s with
      writeInProgress := true
      operations := s.operations ++ [⟨s.pendingWriteBuffers.flatten, s.pendingWriteResources⟩]
      pendingWriteBuffers := []
      pendingWriteResources := [] }

/-- The buffers and the resource of a call of `write` are added. -/
def push (s : ConnectionWriter ρ) (buffers : List (List UInt8)) (resource : Option ρ) :
    ConnectionWriter ρ :=
  { s with
    pendingWriteBuffers := s.pendingWriteBuffers ++ buffers
    pendingWriteResources := s.pendingWriteResources ++ resource.toList }

/-- A call of `write` in this state throws, and leaves what it has added. -/
def throws (s : ConnectionWriter ρ) : Bool := !s.writeInProgress && s.lastError

/-- `HttpConnection::write` -/
def write (s : ConnectionWriter ρ) (buffers : List (List UInt8)) (resource : Option ρ) :
    ConnectionWriter ρ :=
  let s := s.push buffers resource
  if s.writeInProgress then s else s.writePending.getD s

/-- `HttpConnection::handle_write`; `none` for an exception, which nothing catches. -/
def handleWrite (s : ConnectionWriter ρ) (error : Bool) : Option (ConnectionWriter ρ) :=
  let s := { s with writeInProgress := false }
  if error then some { s with lastError := true }
  else if s.pendingWriteBuffers ≠ [] then s.writePending
  else some s

/-- One step. An operation that ends without an error has passed on all of its bytes. -/
def step (s : ConnectionWriter ρ) : WriteEvent ρ → Option (ConnectionWriter ρ)
  | .write buffers resource => some (s.write buffers resource)
  | .transfer i n =>
    match s.operations[i]? with
    | none => none
    | some op =>
      some { s with
        operations := s.operations.set i { op with remaining := op.remaining.drop n }
        socket := s.socket ++ op.remaining.take n }
  | .handleWrite i error =>
    match s.operations[i]? with
    | none => none
    | some op =>
      if op.remaining = [] ∨ error then
        { s with operations := s.operations.eraseIdx i }.handleWrite error
      else none
  | .readError => some { s with lastError := true }

/-- A new connection. -/
def machine (ρ : Type*) : Machine (ConnectionWriter ρ) (WriteEvent ρ) where
  init := {}
  step := step

end ConnectionWriter

/-- What a call of `write` is given. -/
abbrev WriteCall (ρ : Type*) := List (List UInt8) × Option ρ

namespace WriteCall

variable {ρ : Type*}

def bytes (calls : List (WriteCall ρ)) : List UInt8 := (calls.flatMap Prod.fst).flatten

def resources (calls : List (WriteCall ρ)) : List ρ := calls.flatMap fun c => c.2.toList

@[simp] theorem bytes_nil : bytes ([] : List (WriteCall ρ)) = [] := rfl

@[simp] theorem bytes_append (cs ds : List (WriteCall ρ)) : bytes (cs ++ ds) = bytes cs ++ bytes ds := by
  simp [bytes]

@[simp] theorem resources_nil : resources ([] : List (WriteCall ρ)) = [] := rfl

@[simp] theorem resources_append (cs ds : List (WriteCall ρ)) :
    resources (cs ++ ds) = resources cs ++ resources ds := by
  simp [resources]

/-- The calls that have returned; those that throw are not counted. -/
def record (s : ConnectionWriter ρ) (e : WriteEvent ρ) (calls : List (WriteCall ρ)) :
    List (WriteCall ρ) :=
  match e with
  | .write buffers resource => if s.throws then calls else calls ++ [(buffers, resource)]
  | _ => calls

end WriteCall

namespace ConnectionWriter

open WriteCall

variable {ρ : Type*} {s s' : ConnectionWriter ρ} {calls : List (WriteCall ρ)} {es : List (WriteEvent ρ)}

/-! ## Where the calls are -/

/-- What is under way: nothing, one operation, or one operation that has failed. -/
inductive Under (s : ConnectionWriter ρ) (flying : List (WriteCall ρ)) (before : List UInt8) : Prop
  | idle (progress : s.writeInProgress = false) (operations : s.operations = []) (flying : flying = [])
      (socket : s.socket = before)
  | busy (sent remaining : List UInt8) (progress : s.writeInProgress = true)
      (operations : s.operations = [⟨remaining, resources flying⟩])
      (bytes : bytes flying = sent ++ remaining) (socket : s.socket = before ++ sent)
  | failed (sent remaining : List UInt8) (progress : s.writeInProgress = false)
      (operations : s.operations = []) (error : s.lastError = true)
      (bytes : bytes flying = sent ++ remaining) (socket : s.socket = before ++ sent)

/-- The calls that have returned are done, under way, or waiting. -/
structure Placed (s : ConnectionWriter ρ) (calls done flying waiting : List (WriteCall ρ)) : Prop where
  calls : calls = done ++ flying ++ waiting
  under : Under s flying (bytes done)
  /-- Behind what waits is what calls have left that have thrown. -/
  pending : ∃ left, s.pendingWriteBuffers = waiting.flatMap Prod.fst ++ left.flatMap Prod.fst ∧
    s.pendingWriteResources = resources waiting ++ resources left ∧ (left ≠ [] → s.throws = true)
  /-- What is left behind an operation waits for nothing but an error. -/
  idle : s.writeInProgress = false → s.pendingWriteBuffers ≠ [] → s.lastError = true

theorem placed_init : Placed ({} : ConnectionWriter ρ) [] [] [] [] :=
  ⟨rfl, .idle rfl rfl rfl rfl, ⟨[], rfl, rfl, by simp⟩, by simp⟩

section Step

variable {done flying waiting : List (WriteCall ρ)} {buffers : List (List UInt8)} {resource : Option ρ}

/-- All that waits gets under way. -/
theorem placed_writePending (hoperations : s.operations = []) (hsocket : s.socket = bytes done)
    (hbuffers : s.pendingWriteBuffers = waiting.flatMap Prod.fst)
    (hresources : s.pendingWriteResources = resources waiting) (h : s.writePending = some s') :
    Placed s' (done ++ waiting) done waiting [] := by
  unfold writePending at h
  split at h
  · cases h
  · obtain rfl := Option.some.inj h
    refine ⟨by simp, .busy [] (bytes waiting) rfl ?_ rfl ?_, ⟨[], by simp, by simp, by simp⟩, by simp⟩
    · simp [hoperations, hbuffers, hresources, bytes]
    · simp [hsocket]

/-- Nothing is left behind while calls do not throw. -/
theorem Placed.pending_of_not_throws (hp : Placed s calls done flying waiting)
    (hthrows : s.throws = false) :
    s.pendingWriteBuffers = waiting.flatMap Prod.fst ∧ s.pendingWriteResources = resources waiting := by
  obtain ⟨left, hbuffers, hresources, hleft⟩ := hp.pending
  have hnil : left = [] := by
    by_contra hne
    rw [hleft hne] at hthrows
    cases hthrows
  subst hnil
  exact ⟨by simpa using hbuffers, by simpa using hresources⟩

theorem Placed.write (hp : Placed s calls done flying waiting) :
    ∃ done flying waiting,
      Placed (s.write buffers resource) (record s (.write buffers resource) calls) done flying waiting := by
  by_cases hprogress : s.writeInProgress
  · -- the call waits for the operation under way
    have hthrows : s.throws = false := by simp [throws, hprogress]
    obtain ⟨hbuffers, hresources⟩ := hp.pending_of_not_throws hthrows
    have hwrite : s.write buffers resource = s.push buffers resource := by
      simp [ConnectionWriter.write, push, hprogress]
    refine ⟨done, flying, waiting ++ [(buffers, resource)], ?_⟩
    rw [hwrite, record, hthrows]
    refine ⟨by simp [hp.calls], ?_, ⟨[], ?_, ?_, by simp⟩, ?_⟩
    · cases hp.under with
      | idle h => simp [hprogress] at h
      | busy sent remaining h hop hb hs => exact .busy sent remaining h hop hb hs
      | failed _ _ h => simp [hprogress] at h
    · simp [push, hbuffers]
    · simp [push, hresources, resources]
    · intro h
      simp [push, hprogress] at h
  · by_cases herror : s.lastError
    · -- the call throws
      have hthrows : s.throws = true := by simp [throws, hprogress, herror]
      have hwrite : s.write buffers resource = s.push buffers resource := by
        simp [ConnectionWriter.write, push, hprogress, writePending, herror]
      obtain ⟨left, hbuffers, hresources, -⟩ := hp.pending
      refine ⟨done, flying, waiting, ?_⟩
      rw [hwrite, record, hthrows]
      refine ⟨hp.calls, ?_, ⟨left ++ [(buffers, resource)], ?_, ?_, fun _ => hthrows⟩, fun _ _ => herror⟩
      · cases hp.under with
        | idle h hop hf hs => exact .idle h hop hf hs
        | busy _ _ h => exact absurd h hprogress
        | failed sent remaining h hop he hb hs => exact .failed sent remaining h hop he hb hs
      · simp [push, hbuffers]
      · simp [push, hresources, resources]
    · -- the call starts an operation
      have hthrows : s.throws = false := by simp [throws, herror]
      obtain ⟨hbuffers, hresources⟩ := hp.pending_of_not_throws hthrows
      obtain ⟨hop, hflying, hsocket⟩ : s.operations = [] ∧ flying = [] ∧ s.socket = bytes done := by
        cases hp.under with
        | idle _ hop hf hs => exact ⟨hop, hf, hs⟩
        | busy _ _ h => exact absurd h hprogress
        | failed _ _ _ _ h => exact absurd h herror
      have hsome : ∃ t, (s.push buffers resource).writePending = some t := by
        simp [writePending, push, herror]
      obtain ⟨t, ht⟩ := hsome
      have hwrite : s.write buffers resource = t := by
        have hpush : (s.push buffers resource).writeInProgress = false := by simpa [push] using hprogress
        simp [ConnectionWriter.write, hpush, ht]
      refine ⟨done, waiting ++ [(buffers, resource)], [], ?_⟩
      have hcalls : record s (.write buffers resource) calls =
          done ++ (waiting ++ [(buffers, resource)]) := by
        simp [record, hthrows, hp.calls, hflying]
      rw [hwrite, hcalls]
      refine placed_writePending ?_ ?_ ?_ ?_ ht
      · exact hop
      · exact hsocket
      · simp [push, hbuffers]
      · simp [push, hresources, resources]

/-- The operation of an index is the only one. -/
theorem Under.of_getElem? {before : List UInt8} (hu : Under s flying before) {i : Nat} {op : Operation ρ}
    (hop : s.operations[i]? = some op) :
    ∃ sent remaining, i = 0 ∧ op = ⟨remaining, resources flying⟩ ∧ s.writeInProgress = true ∧
      s.operations = [⟨remaining, resources flying⟩] ∧ bytes flying = sent ++ remaining ∧
        s.socket = before ++ sent := by
  cases hu with
  | idle _ hops => simp [hops] at hop
  | failed _ _ _ hops => simp [hops] at hop
  | busy sent remaining hprogress hops hbytes hsocket =>
    rw [hops] at hop
    cases i with
    | zero => exact ⟨sent, remaining, rfl, (Option.some.inj hop).symm, hprogress, hops, hbytes, hsocket⟩
    | succ i => simp at hop

theorem Placed.transfer (hp : Placed s calls done flying waiting) {i n : Nat}
    (h : s.step (.transfer i n) = some s') : Placed s' calls done flying waiting := by
  simp only [ConnectionWriter.step] at h
  split at h
  · cases h
  · next op hop =>
    obtain rfl := Option.some.inj h
    obtain ⟨sent, remaining, rfl, rfl, hprogress, hops, hbytes, hsocket⟩ := hp.under.of_getElem? hop
    refine ⟨hp.calls, .busy (sent ++ remaining.take n) (remaining.drop n) hprogress ?_ ?_ ?_, hp.pending,
      hp.idle⟩
    · simp [hops]
    · rw [hbytes, List.append_assoc, List.take_append_drop]
    · simp [hsocket]

theorem Placed.handleWrite (hp : Placed s calls done flying waiting) {i : Nat} {error : Bool}
    (h : s.step (.handleWrite i error) = some s') :
    ∃ done flying waiting, Placed s' calls done flying waiting := by
  simp only [ConnectionWriter.step] at h
  split at h
  · cases h
  · next op hop =>
    obtain ⟨sent, remaining, rfl, rfl, hprogress, hops, hbytes, hsocket⟩ := hp.under.of_getElem? hop
    have hthrows : s.throws = false := by simp [throws, hprogress]
    obtain ⟨hbuffers, hresources⟩ := hp.pending_of_not_throws hthrows
    split at h
    · next hend =>
      cases error with
      | true =>
        obtain rfl := Option.some.inj h
        exact ⟨done, flying, waiting, hp.calls,
          .failed sent remaining rfl (by simp [hops]) rfl hbytes hsocket,
          ⟨[], by simpa using hbuffers, by simpa using hresources, by simp⟩, fun _ _ => rfl⟩
      | false =>
        have hremaining : remaining = [] := by simpa using hend
        rw [hremaining, List.append_nil] at hbytes
        have hdone : s.socket = bytes (done ++ flying) := by rw [hsocket, bytes_append, hbytes]
        simp only [ConnectionWriter.handleWrite, Bool.false_eq_true, if_false] at h
        split at h
        · refine ⟨done ++ flying, waiting, [], ?_⟩
          rw [hp.calls]
          refine placed_writePending ?_ ?_ ?_ ?_ h
          · simp [hops]
          · exact hdone
          · exact hbuffers
          · exact hresources
        · next hempty =>
          obtain rfl := Option.some.inj h
          refine ⟨done ++ flying, [], waiting, by simp [hp.calls], .idle rfl (by simp [hops]) rfl hdone,
            ⟨[], by simpa using hbuffers, by simpa using hresources, by simp⟩, fun _ hne => ?_⟩
          exact absurd hne hempty
    · cases h

theorem Placed.readError (hp : Placed s calls done flying waiting) :
    Placed { s with lastError := true } calls done flying waiting := by
  refine ⟨hp.calls, ?_, ?_, fun _ _ => rfl⟩
  · cases hp.under with
    | idle h hop hf hs => exact .idle h hop hf hs
    | busy sent remaining h hop hb hs => exact .busy sent remaining h hop hb hs
    | failed sent remaining h hop _ hb hs => exact .failed sent remaining h hop rfl hb hs
  · obtain ⟨left, hbuffers, hresources, hleft⟩ := hp.pending
    refine ⟨left, hbuffers, hresources, ?_⟩
    intro hne
    have := hleft hne
    simp only [throws, Bool.and_eq_true] at this ⊢
    exact ⟨this.1, trivial⟩

/-- **One step.** -/
theorem Placed.step (hp : Placed s calls done flying waiting) {e : WriteEvent ρ}
    (h : s.step e = some s') :
    ∃ done flying waiting, Placed s' (record s e calls) done flying waiting := by
  cases e with
  | write buffers resource =>
    obtain rfl := Option.some.inj h
    exact hp.write
  | transfer i n => exact ⟨_, _, _, hp.transfer h⟩
  | handleWrite i error => exact hp.handleWrite h
  | readError =>
    obtain rfl := Option.some.inj h
    exact ⟨_, _, _, hp.readError⟩

end Step

/-- The machine with the calls that have returned. -/
abbrev recorded (ρ : Type*) : Machine (ConnectionWriter ρ × List (WriteCall ρ)) (WriteEvent ρ) :=
  (machine ρ).recording [] record

/-- **In every run, the calls are done, under way or waiting, in the order in which they were made.** -/
theorem run_placed (hr : (recorded ρ).Run es (s, calls)) :
    ∃ done flying waiting, Placed s calls done flying waiting :=
  hr.invariant (I := fun t => ∃ done flying waiting, Placed t.1 t.2 done flying waiting)
    ⟨[], [], [], placed_init⟩ fun ⟨_, _, _, hp⟩ hs _ => by
      obtain ⟨hstep, hrecord⟩ := Machine.recording_step.mp hs
      rw [hrecord]
      exact hp.step hstep

/-! ## What the client has got -/

theorem bytes_eq_nil_of_flatMap {cs : List (WriteCall ρ)} (h : cs.flatMap Prod.fst = []) :
    bytes cs = [] := by
  rw [bytes, h]
  rfl

/-- The socket has got the beginning of what the calls have written. -/
theorem Placed.socket {done flying waiting : List (WriteCall ρ)}
    (hp : Placed s calls done flying waiting) :
    s.operations.length ≤ 1 ∧ s.socket <+: bytes calls ∧
      (s.operations = [] → s.lastError = false → s.socket = bytes calls) := by
  rw [hp.calls, bytes_append, bytes_append]
  cases hp.under with
  | idle hprogress hops hflying hsocket =>
    rw [hflying, bytes_nil, List.append_nil]
    refine ⟨by simp [hops], ⟨bytes waiting, by rw [hsocket]⟩, fun _ herror => ?_⟩
    have hnone : s.pendingWriteBuffers = [] := by
      by_contra hne
      rw [hp.idle hprogress hne] at herror
      cases herror
    rw [(hp.pending_of_not_throws (by simp [throws, herror])).1] at hnone
    rw [hsocket, bytes_eq_nil_of_flatMap hnone, List.append_nil]
  | busy sent remaining _ hops hbytes hsocket =>
    refine ⟨by simp [hops], ⟨remaining ++ bytes waiting, by simp [hsocket, hbytes]⟩, fun hnone => ?_⟩
    rw [hops] at hnone
    cases hnone
  | failed sent remaining _ hops herror hbytes hsocket =>
    refine ⟨by simp [hops], ⟨remaining ++ bytes waiting, by simp [hsocket, hbytes]⟩, fun _ hnone => ?_⟩
    rw [herror] at hnone
    cases hnone

/--
**The stream is what was written.** In whatever order calls of `write` from any threads, the progress
of the socket, the ends of operations and errors come: there is never more than one operation under way,
the socket has got the beginning of what the calls that returned have written, in their order, and it
has got all of it when no operation is under way and there was no error.
-/
theorem socket_written (hr : (recorded ρ).Run es (s, calls)) :
    s.operations.length ≤ 1 ∧ s.socket <+: bytes calls ∧
      (s.operations = [] → s.lastError = false → s.socket = bytes calls) := by
  obtain ⟨done, flying, waiting, hp⟩ := run_placed hr
  exact hp.socket

/-- Two calls, the second of them while the first is under way. -/
theorem socket_written_two :
    ∃ t, (recorded Nat).Run [.write [[72], [105]] (some 0), .transfer 0 1, .write [[33]] none,
        .transfer 0 1, .handleWrite 0 false, .transfer 0 1, .handleWrite 0 false] t ∧
      t.1.socket = bytes t.2 := by
  have hrun : (recorded Nat).Run [.write [[72], [105]] (some 0), .transfer 0 1, .write [[33]] none,
      .transfer 0 1, .handleWrite 0 false, .transfer 0 1, .handleWrite 0 false]
      ({ socket := [72, 105, 33] }, [([[72], [105]], some 0), ([[33]], none)]) :=
    Machine.run_of_exec rfl
  exact ⟨_, hrun, (socket_written hrun).2.2 rfl rfl⟩

/-- A resource is with the connection or with an operation. -/
def Holds (s : ConnectionWriter ρ) (r : ρ) : Prop :=
  r ∈ s.pendingWriteResources ∨ ∃ op ∈ s.operations, r ∈ op.resources

/-- Only a call of `write` with a resource makes the connection hold it. -/
theorem holds_of_step {e : WriteEvent ρ} {r : ρ} (h : s.step e = some s') (hr : s'.Holds r) :
    s.Holds r ∨ ∃ buffers, e = .write buffers (some r) := by
  have hpending : ∀ {t t' : ConnectionWriter ρ}, t.writePending = some t' → t'.Holds r → t.Holds r := by
    intro t t' ht hr
    unfold writePending at ht
    split at ht
    · cases ht
    · obtain rfl := Option.some.inj ht
      rcases hr with hmem | ⟨op, hop, hmem⟩
      · simp at hmem
      · rcases List.mem_append.mp hop with hop | hop
        · exact .inr ⟨op, hop, hmem⟩
        · rw [List.mem_singleton.mp hop] at hmem
          exact .inl hmem
  cases e with
  | readError =>
    obtain rfl := Option.some.inj h
    exact .inl hr
  | write buffers resource =>
    obtain rfl := Option.some.inj h
    have hpush : (s.push buffers resource).Holds r := by
      simp only [write] at hr
      split at hr
      · exact hr
      · cases ht : (s.push buffers resource).writePending with
        | none => rwa [ht] at hr
        | some t =>
          rw [ht] at hr
          exact hpending ht hr
    rcases hpush with hmem | hop
    · rcases List.mem_append.mp hmem with hmem | hmem
      · exact .inl (.inl hmem)
      · rw [Option.mem_toList.mp hmem]
        exact .inr ⟨buffers, rfl⟩
    · exact .inl (.inr hop)
  | transfer i n =>
    simp only [step] at h
    split at h
    · cases h
    · next op hop =>
      obtain rfl := Option.some.inj h
      rcases hr with hmem | ⟨op', hop', hmem⟩
      · exact .inl (.inl hmem)
      · rcases List.mem_or_eq_of_mem_set hop' with hop' | rfl
        · exact .inl (.inr ⟨op', hop', hmem⟩)
        · exact .inl (.inr ⟨op, List.mem_of_getElem? hop, hmem⟩)
  | handleWrite i error =>
    have herase : ∀ b, ({ s with operations := s.operations.eraseIdx i, lastError := b } :
        ConnectionWriter ρ).Holds r → s.Holds r := by
      rintro b (hmem | ⟨op, hop, hmem⟩)
      · exact .inl hmem
      · exact .inr ⟨op, List.mem_of_mem_eraseIdx hop, hmem⟩
    simp only [step] at h
    split at h
    · cases h
    · split at h
      · cases error with
        | true =>
          obtain rfl := Option.some.inj h
          exact .inl (herase true hr)
        | false =>
          simp only [handleWrite, Bool.false_eq_true, if_false] at h
          split at h
          · exact .inl (herase s.lastError (hpending h hr))
          · obtain rfl := Option.some.inj h
            exact .inl (herase s.lastError hr)
      · cases h

/-- **The memory of a buffer is there as long as the socket needs it**: while bytes of a call, or of one
before it, have not been passed on, its resource is held, unless the connection has failed. -/
theorem Placed.held {done flying waiting : List (WriteCall ρ)}
    (hp : Placed s calls done flying waiting) {before after : List (WriteCall ρ)}
    {buffers : List (List UInt8)} {r : ρ} (hcalls : calls = before ++ (buffers, some r) :: after)
    (hlength : s.socket.length < (bytes (before ++ [(buffers, some r)])).length)
    (hthrows : s.throws = false) : s.Holds r := by
  obtain ⟨-, hpending⟩ := hp.pending_of_not_throws hthrows
  have hmem : (buffers, some r) ∈ flying ++ waiting := by
    have hsocket : (bytes done).length ≤ s.socket.length := by
      cases hp.under with
      | idle _ _ _ hsocket => exact Nat.le_of_eq (congrArg List.length hsocket.symm)
      | busy sent _ _ _ _ hsocket => simp [hsocket]
      | failed sent _ _ _ _ _ hsocket => simp [hsocket]
    have hsplit : before ++ (buffers, some r) :: after = done ++ (flying ++ waiting) := by
      rw [← hcalls, hp.calls, List.append_assoc]
    rcases List.append_eq_append_iff.mp hsplit with ⟨mid, hdone, htail⟩ | ⟨mid, hbefore, htail⟩
    · cases mid with
      | nil =>
        rw [List.nil_append] at htail
        rw [← htail]
        exact List.mem_cons_self
      | cons c mid =>
        -- then the call would be done, and all of its bytes passed on
        obtain ⟨rfl, -⟩ := List.cons.inj htail
        have hle : (bytes (before ++ [(buffers, some r)])).length ≤ (bytes done).length := by
          have hfront : done = before ++ [(buffers, some r)] ++ mid := by simp [hdone]
          rw [hfront, bytes_append _ mid, List.length_append]
          exact Nat.le_add_right _ _
        omega
    · rw [htail]
      exact List.mem_append_right _ List.mem_cons_self
  have hresource : ∀ {cs : List (WriteCall ρ)}, (buffers, some r) ∈ cs → r ∈ resources cs := by
    intro cs hcs
    exact List.mem_flatMap.mpr ⟨_, hcs, by simp⟩
  rcases List.mem_append.mp hmem with hflying | hwaiting
  · cases hp.under with
    | idle _ _ hnil => simp [hnil] at hflying
    | busy _ _ _ hops => exact .inr ⟨_, by rw [hops]; exact List.mem_singleton_self _, hresource hflying⟩
    | failed _ _ hprogress _ herror => simp [throws, hprogress, herror] at hthrows
  · exact .inl (by rw [hpending]; exact hresource hwaiting)

/-! ## Errors -/

theorem writePending_eq_some (h : s.writePending = some s') :
    s.lastError = false ∧ s'.lastError = false := by
  unfold writePending at h
  split at h
  · cases h
  · next herror =>
    obtain rfl := Option.some.inj h
    exact ⟨by simpa using herror, by simpa using herror⟩

theorem lastError_write {buffers : List (List UInt8)} {resource : Option ρ} :
    (s.write buffers resource).lastError = s.lastError := by
  simp only [write]
  split
  · rfl
  · cases hpending : (s.push buffers resource).writePending with
    | none => rfl
    | some t =>
      obtain ⟨hs, ht⟩ := writePending_eq_some hpending
      exact ht.trans hs.symm

/-- What a step does to the error: only errors set it, and no operation starts with it. -/
theorem lastError_step {e : WriteEvent ρ} (h : s.step e = some s') :
    (s.lastError = true ∨ e = .readError → s'.lastError = true) ∧
      (s'.writeInProgress = true → s'.lastError = true →
        e = .readError ∨ s.writeInProgress = true ∧ s.lastError = true) := by
  cases e with
  | readError =>
    obtain rfl := Option.some.inj h
    exact ⟨fun _ => rfl, fun _ _ => .inl rfl⟩
  | write buffers resource =>
    obtain rfl := Option.some.inj h
    rw [lastError_write]
    refine ⟨fun h => h.resolve_right nofun, fun hprogress herror => .inr ⟨?_, herror⟩⟩
    by_contra hidle
    have hnone : (s.push buffers resource).writePending = none := by simp [writePending, push, herror]
    have hpush : (s.push buffers resource).writeInProgress = false := by simpa [push] using hidle
    simp [write, hpush, hnone] at hprogress
  | transfer i n =>
    simp only [step] at h
    split at h
    · cases h
    · obtain rfl := Option.some.inj h
      exact ⟨fun h => h.resolve_right nofun, fun hprogress herror => .inr ⟨hprogress, herror⟩⟩
  | handleWrite i error =>
    simp only [step] at h
    split at h
    · cases h
    · split at h
      · cases error with
        | true =>
          obtain rfl := Option.some.inj h
          exact ⟨fun _ => rfl, fun hprogress => by cases hprogress⟩
        | false =>
          simp only [handleWrite, Bool.false_eq_true, if_false] at h
          split at h
          · obtain ⟨hs, ht⟩ := writePending_eq_some h
            refine ⟨?_, ?_⟩
            · intro herror
              rw [herror.resolve_right nofun] at hs
              cases hs
            · intro _ herror
              rw [ht] at herror
              cases herror
          · obtain rfl := Option.some.inj h
            exact ⟨fun h => h.resolve_right nofun, fun hprogress => by cases hprogress⟩
      · cases h

/-- A connection that has failed stays as it is for the client, and every further call throws. -/
theorem throws_step {done flying waiting : List (WriteCall ρ)} {e : WriteEvent ρ}
    (hp : Placed s calls done flying waiting) (hthrows : s.throws = true) (h : s.step e = some s') :
    s'.throws = true ∧ record s e calls = calls := by
  have hboth : s.writeInProgress = false ∧ s.lastError = true := by simpa [throws] using hthrows
  have hops : ∀ {i : Nat} {op : Operation ρ}, s.operations[i]? ≠ some op := by
    intro i op hop
    obtain ⟨-, -, -, -, hprogress, -⟩ := hp.under.of_getElem? hop
    rw [hboth.1] at hprogress
    cases hprogress
  cases e with
  | readError =>
    obtain rfl := Option.some.inj h
    exact ⟨by simp [throws, hboth.1], rfl⟩
  | write buffers resource =>
    obtain rfl := Option.some.inj h
    refine ⟨?_, by rw [record, hthrows]; rfl⟩
    have hidle : (s.write buffers resource).writeInProgress = false := by
      simp [write, push, writePending, hboth]
    rw [throws, hidle, lastError_write, hboth.2]
    rfl
  | transfer i n =>
    simp only [step] at h
    split at h
    · cases h
    · next hop => exact absurd hop hops
  | handleWrite i error =>
    simp only [step] at h
    split at h
    · cases h
    · next hop => exact absurd hop hops

/-- While an operation is under way, only a read can have failed. -/
theorem readError_mem_iff (hr : (machine ρ).Run es s) :
    (.readError ∈ es → s.lastError = true) ∧
      (s.writeInProgress = true → s.lastError = true → .readError ∈ es) := by
  induction hr with
  | init => exact ⟨nofun, nofun⟩
  | snoc _ hs _ ih =>
    obtain ⟨hset, honly⟩ := lastError_step hs
    refine ⟨fun hmem => hset ?_, ?_⟩
    · rcases List.mem_append.mp hmem with hmem | hmem
      · exact .inl (ih.1 hmem)
      · exact .inr (List.mem_singleton.mp hmem).symm
    · intro hprogress herror
      rcases honly hprogress herror with rfl | ⟨hprogress, herror⟩
      · exact List.mem_append_right _ (List.mem_singleton_self _)
      · exact List.mem_append_left _ (ih.2 hprogress herror)

/--
**What ends the program.** The end of an operation that has passed on all of its bytes is survived
exactly if no read has failed before it or nothing has been written since it began: else `handle_write`
throws, and nothing catches the exception.
-/
theorem handleWrite_survives_iff (hr : (machine ρ).Run es s) {i : Nat} {op : Operation ρ}
    (hop : s.operations[i]? = some op) (hend : op.remaining = []) :
    (s.step (.handleWrite i false)).isSome ↔ .readError ∉ es ∨ s.pendingWriteBuffers = [] := by
  obtain ⟨calls, hrecorded⟩ := Machine.exists_run_recording_iff.mpr hr
  obtain ⟨done, flying, waiting, hp⟩ := run_placed hrecorded
  obtain ⟨-, -, -, -, hprogress, -⟩ := hp.under.of_getElem? hop
  obtain ⟨hset, honly⟩ := readError_mem_iff hr
  simp only [step, hop, hend, true_or, if_true, handleWrite, Bool.false_eq_true, if_false]
  by_cases hempty : s.pendingWriteBuffers = []
  · simp [hempty]
  · rw [if_pos hempty, or_iff_left hempty, writePending]
    by_cases herror : s.lastError = true
    · simp [herror, honly hprogress herror]
    · have hnot : .readError ∉ es := fun hmem => herror (hset hmem)
      simp [herror, hnot]

/-- The client closes its side while two calls are on their way. -/
theorem handleWrite_survives_iff_closed :
    ∃ s, (machine Nat).Run [.write [[72]] none, .write [[105]] none, .readError, .transfer 0 1] s ∧
      ¬ (s.step (.handleWrite 0 false)).isSome := by
  have hrun : (machine Nat).Run [.write [[72]] none, .write [[105]] none, .readError, .transfer 0 1]
      ⟨true, [[105]], [], true, [⟨[], []⟩], [72]⟩ := Machine.run_of_exec rfl
  have hiff := handleWrite_survives_iff hrun (i := 0) rfl rfl
  refine ⟨_, hrun, ?_⟩
  intro hsome
  rcases hiff.mp hsome with hread | hnone
  · simp at hread
  · cases hnone

end ConnectionWriter

end Tetra.Web
