import Tetra.Lib.Arrivals
import Tetra.Lib.Memory

/-!
# The serial port

The port as the C code sees it through `read` and `write`. `rs232.c` opens it with `VMIN = 0`, so a
`read` returns the bytes that are there (at most as many as asked for), 0 when its time is up, or
-1 on an error.

A `Line` is a port over a stretch of time: what each `write` will return, what the reads after it
will find (`reactions`), and a log of what has been written and received.
-/

namespace Tetra.Serial

open Arrival Memory

/-- What the reads of the port find, from now on. -/
abbrev Port := List (Arrival UInt8)

/-- A `packet_buf`, with the size it is declared with. -/
abbrev Buffer := List UInt8

/-- `read(fd, &data[index], count)` -/
def read (data : Buffer) (index count : Nat) (port : Port) :
    Except Fault (Int × Buffer × Port) :=
  match ready count port, port with
  | (b :: bs, port), _ => do
    let data ← storeAll data index ((b :: bs).map some)
    return ((b :: bs).length, data, port)
  | ([], _), .timeout :: port => return (0, data, port)
  | ([], _), .error :: port => return (-1, data, port)
  | ([], port), _ => return (0, data, port)

@[simp] theorem read_one_item (data : Buffer) (index : Nat) (b : UInt8) (more : Bool) (port : Port) :
    read data index 1 (.item b more :: port) = do
      let data ← store data index b
      return (1, data, port) := by
  cases more <;> simp [read, ready, storeAll]

@[simp] theorem read_one_timeout (data : Buffer) (index : Nat) (port : Port) :
    read data index 1 (.timeout :: port) = .ok (0, data, port) := rfl

@[simp] theorem read_one_error (data : Buffer) (index : Nat) (port : Port) :
    read data index 1 (.error :: port) = .ok (-1, data, port) := rfl

@[simp] theorem read_one_nil (data : Buffer) (index : Nat) :
    read data index 1 [] = .ok (0, data, []) := rfl

/-- A read fails and leaves the buffer alone, or stores some bytes that are next on the port. -/
theorem read_cases (data : Buffer) (index : Nat) {count : Nat} (hcount : 0 < count) (port : Port) :
    (∃ ret port', ret ≤ 0 ∧ read data index count port = .ok (ret, data, port') ∧
      ∀ {σ : Type} (step : σ → UInt8 → Option σ) (s : σ), intake step s port = ⟨[], false, port'⟩) ∨
    ∃ front bs port', 0 < bs.length ∧ bs.length ≤ count ∧ Delivers front bs ∧ port = front ++ port' ∧
      read data index count port = do
        let data ← storeAll data index (bs.map some)
        return (bs.length, data, port') := by
  obtain ⟨count, rfl⟩ := Nat.exists_eq_add_one_of_ne_zero (Nat.ne_of_gt hcount)
  match port with
  | [] => exact Or.inl ⟨0, [], by decide, rfl, fun _ _ => rfl⟩
  | .timeout :: port => exact Or.inl ⟨0, port, by decide, rfl, fun _ _ => rfl⟩
  | .error :: port => exact Or.inl ⟨-1, port, by decide, rfl, fun _ _ => rfl⟩
  | .item b more :: port =>
    obtain ⟨hle, front, hfront, hport⟩ := ready_spec (count + 1) (.item b more :: port)
    rcases hready : ready (count + 1) (.item b more :: port) with ⟨_ | ⟨c, bs⟩, port'⟩
    · have hnil := ready_eq_nil (Nat.succ_pos count) (by rw [hready])
      exact absurd rfl (hnil.2 b more port)
    · rw [hready] at hle hfront hport
      exact Or.inr ⟨front, c :: bs, port', by simp, hle, hfront, hport, by simp only [read, hready]⟩

/-! ## Lines -/

/-- What a `write` returns, and what the reads after it find. -/
structure Reaction where
  written : Int
  arrivals : Port
  deriving DecidableEq, Repr

/-- What has passed over the line. -/
inductive Traffic
  | wrote (frame : List UInt8) (ret : Int) (arrivals : Port)
  | received (data : Buffer) (left : Port)
  deriving DecidableEq, Repr

/-- An open port, with all that is going to happen on it. -/
structure Line where
  fd : Int
  port : Port := []
  reactions : List Reaction := []
  log : List Traffic := []
  deriving DecidableEq, Repr

namespace Line

/-- What the next `write` meets; with no reaction left it succeeds and nothing new arrives. -/
def reaction (line : Line) (count : Nat) : Reaction := line.reactions.headD ⟨count, line.port⟩

/-- The line after `write(fd, buf, count)`. -/
def wrote (line : Line) (buf : Buffer) (count : Nat) : Line :=
  let r := line.reaction count
  { line with
    port := r.arrivals, reactions := line.reactions.tail,
    log := line.log ++ [.wrote (buf.take count) r.written r.arrivals] }

/-- `write(fd, buf, count)` -/
def write (line : Line) (buf : Buffer) (count : Nat) : Int × Line :=
  ((line.reaction count).written, line.wrote buf count)

/-- The line after a receiver has filled `data` and left `port`. -/
def received (line : Line) (data : Buffer) (port : Port) : Line :=
  { line with port := port, log := line.log ++ [.received data port] }

/-- A call of a receiver on the line. -/
def receive {ρ : Type} (receiver : Buffer → Port → Except Fault (ρ × Buffer × Port)) (line : Line)
    (data : Buffer) : Except Fault (ρ × Buffer × Line) := do
  let (ret, data, port) ← receiver data line.port
  return (ret, data, line.received data port)

theorem receive_of_ok {ρ : Type} {receiver : Buffer → Port → Except Fault (ρ × Buffer × Port)}
    {line : Line} {data data' : Buffer} {ret : ρ} {port' : Port}
    (h : receiver data line.port = .ok (ret, data', port')) :
    line.receive receiver data = .ok (ret, data', line.received data' port') := by
  rw [receive, h]
  rfl

theorem receive_of_error {ρ : Type} {receiver : Buffer → Port → Except Fault (ρ × Buffer × Port)}
    {line : Line} {data : Buffer} {fault : Fault} (h : receiver data line.port = .error fault) :
    line.receive receiver data = .error fault := by
  rw [receive, h]
  rfl

@[simp] theorem wrote_fd (line : Line) (buf : Buffer) (count : Nat) :
    (line.wrote buf count).fd = line.fd := rfl

@[simp] theorem wrote_port (line : Line) (buf : Buffer) (count : Nat) :
    (line.wrote buf count).port = (line.reaction count).arrivals := rfl

@[simp] theorem wrote_log (line : Line) (buf : Buffer) (count : Nat) :
    (line.wrote buf count).log = line.log ++
      [.wrote (buf.take count) (line.reaction count).written (line.reaction count).arrivals] := rfl

@[simp] theorem received_log (line : Line) (data : Buffer) (port : Port) :
    (line.received data port).log = line.log ++ [.received data port] := rfl

@[simp] theorem received_port (line : Line) (data : Buffer) (port : Port) :
    (line.received data port).port = port := rfl

/-- All that happens from `line` to `line'` is that a frame is written and `data` is received. -/
def Exchanged (line line' : Line) (data : Buffer) : Prop :=
  ∃ frame written arrivals left,
    line'.log = line.log ++ [.wrote frame written arrivals, .received data left]

theorem exchanged_of_receive {ρ : Type} {line line' : Line} {buf data data' : Buffer} {index : Nat}
    {receiver : Buffer → Port → Except Fault (ρ × Buffer × Port)} {ret : ρ}
    (h : (line.wrote buf index).receive receiver data = .ok (ret, data', line')) :
    line.Exchanged line' data' := by
  obtain ⟨⟨ret₁, data₁, port⟩, -, hline⟩ := bind_eq_ok_iff.mp h
  obtain ⟨-, rfl, rfl⟩ := pure_triple_eq_ok_iff.mp hline
  have hlog : ((line.wrote buf index).received data₁ port).log = line.log ++
      ([.wrote (buf.take index) (line.reaction index).written (line.reaction index).arrivals] ++
        [.received data₁ port]) := List.append_assoc _ _ _
  exact ⟨_, _, _, port, hlog⟩

section Reactions

variable {line : Line} {r : Reaction} {more : List Reaction}

theorem port_wrote (hline : line.reactions = r :: more) (buf : Buffer) (count : Nat) :
    (line.wrote buf count).port = r.arrivals := by
  rw [wrote_port, reaction, hline, List.headD_cons]

theorem written_eq (hline : line.reactions = r :: more) (count : Nat) :
    (line.reaction count).written = r.written := by
  rw [reaction, hline, List.headD_cons]

theorem reactions_received (hline : line.reactions = r :: more) (buf buf' : Buffer) (count : Nat)
    (port : Port) : ((line.wrote buf count).received buf' port).reactions = more := by
  show line.reactions.tail = more
  rw [hline, List.tail_cons]

end Reactions

end Line

end Tetra.Serial
