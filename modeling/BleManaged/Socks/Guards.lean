import BleManaged.Socks.PortCycle

/-! The guard that `pipe_out_tcp` keeps across its write, and the calls it can block. -/

namespace BleManaged

/-- Every call on the map of ports locks the shard of its port, and waits while it is locked. -/
def TableOp.Waits {κ : Type} (shard : UInt16 → κ) (held : UInt16) (op : TableOp) : Prop :=
  -- The guard holds the exclusive lock, which excludes shared ones as well.
  shard op.port = shard held

namespace Mux

variable {κ : Type} (shard : UInt16 → κ)

/-- The port of the guard that `pipe_out_tcp` holds while it is suspended. -/
def guardPort (mux : Mux) : Option UInt16 :=
  match mux.pipeOutTcp with
  -- The guard is a local of the loop that lives to the end of the match on the packet.
  | .writing port _ _ => some port
  | _ => none

/-- The labels by which `pipe_out_tcp` itself goes on. -/
def Label.ResumesPipeOutTcp : Label → Prop
  | .deserialized _ | .wroteTcp _ | .sendStop => True
  | _ => False

/-- The running task calls the map of ports on a shard locked by the suspended `pipe_out_tcp`. -/
def Blocked (mux : Mux) (label : Label) : Prop :=
  -- The task that holds the guard cannot run itself, since it is suspended.
  ∃ held next out op, mux.guardPort = some held ∧ ¬label.ResumesPipeOutTcp ∧
    mux.step label = some (next, out) ∧ .table op ∈ out ∧ op.Waits shard held

/-- No stream is added whose candidate port is in the shard of the guard. -/
def Clear (mux : Mux) (label : Label) : Prop :=
  -- With no guard held there is nothing to wait for.
  label = .addTcpStream →
    ∀ held, mux.guardPort = some held → shard mux.candidatePort ≠ shard held

/-- Among the tasks that do not hold the guard, only `add_tcp_stream` calls the map of ports. -/
theorem Step.table {mux next : Mux} {label : Label} {out : List Event} {op : TableOp}
    (step : Step mux label next out) (other : ¬label.ResumesPipeOutTcp)
    (called : .table op ∈ out) : label = .addTcpStream ∧ op.port = mux.candidatePort := by
  -- An observer of the calls sees none of the turns of the other tasks.
  have seen : (out.filterMap fun
      | .table op => some op
      | _ => none) ≠ [] :=
    List.ne_nil_of_mem (List.mem_filterMap.mpr ⟨_, called, rfl⟩)
  cases step with
  | refused =>
    refine ⟨rfl, ?_⟩
    simp only [List.mem_cons, Event.table.injEq, reduceCtorEq, List.not_mem_nil, or_false] at called
    rw [called]
    rfl
  | unsent | added =>
    refine ⟨rfl, ?_⟩
    simp only [List.mem_cons, Event.table.injEq, reduceCtorEq, List.not_mem_nil, or_false] at called
    rcases called with rfl | rfl <;> rfl
  | read | readerEnded => exact absurd (reader_unseen rfl rfl rfl _) seen
  | sendKeepalive => exact absurd (enqueue_unseen rfl rfl _) seen
  | pipeInTcp => exact absurd (l2cap_unseen (fun _ => rfl) _) seen
  | l2capClosed | stopRequested | drop => simp at called
  | undecoded | skipped | unknownData | offered | unknownClosed | closed | wroteTcp | sendStop =>
    exact absurd trivial other

/-- Every call of `add_tcp_stream` first asks whether its candidate port is known. -/
theorem asks_candidatePort (mux : Mux) :
    .table (.containsKey mux.candidatePort) ∈ mux.addTcpStream.2 := by
  -- The question comes before all branches.
  simp only [addTcpStream]
  split
  · simp
  · split <;> simp

/-- A step is blocked exactly when it adds a stream in the shard of the guard. -/
theorem not_blocked_iff (mux : Mux) (label : Label) :
    ¬Blocked shard mux label ↔ Clear shard mux label := by
  constructor
  · -- A call that adds a stream would wait for its very first question.
    intro free adds held guarded same
    subst adds
    exact free ⟨held, _, _, _, guarded, id, rfl, asks_candidatePort mux, same⟩
  · -- Whatever waits is such a call, and it waits for its candidate port.
    intro clear blocked
    obtain ⟨held, next, out, op, guarded, other, taken, called, waits⟩ := blocked
    obtain ⟨rfl, port⟩ := (step_cases taken).table other called
    exact clear rfl held guarded (by rw [← port]; exact waits)

/-- The thread never waits on the map exactly when no stream is added in the shard of the guard. -/
theorem unblocked_iff (labels : List Label) :
    machine.EachStep (fun mux label => ¬Blocked shard mux label) labels ↔
      machine.EachStep (Clear shard) labels := by
  -- The two conditions agree on every single step.
  constructor
  · intro free
    exact free.imp fun mux label => (not_blocked_iff shard mux label).mp
  · intro clear
    exact clear.imp fun mux label => (not_blocked_iff shard mux label).mpr

/-- No choice of shards helps: the ports go round to the very port whose guard is held. -/
theorem blocked_in_every_sharding :
    ¬∃ (κ : Type) (shard : UInt16 → κ), ∀ labels,
      machine.EachStep (fun mux label => ¬Blocked shard mux label) labels := by
  rintro ⟨κ, shard, always⟩
  -- The write for port one is pending.
  obtain ⟨first, mux, run, running, nextPort, guarded, table⟩ : ∃ seen mux,
      machine.Run [.addTcpStream, .deserialized (.ok (.data 1 [7]))] seen mux ∧
      mux.stopped = false ∧ mux.nextPort = 2 ∧ mux.guardPort = some 1 ∧
      ∀ port, port ≠ 1 → mux.portToTcpStream port = none := by
    refine ⟨_, _, Lts.Run.of_exec rfl, rfl, rfl, rfl, ?_⟩
    intro port other
    exact Function.update_of_ne other _ _
  have ahead : ∀ port, mux.nextPort ≤ port → mux.portToTcpStream port = none := by
    intro port above
    refine table port ?_
    intro same
    subst same
    simp [nextPort] at above
  -- All other ports are taken in the meantime, and the next candidate is port one.
  obtain ⟨more, later, reached, calls, _⟩ :=
    calls_later run running ahead 65533 (by simp [nextPort])
  have candidate := calls.around (by simp [nextPort])
  have held : later.guardPort = some 1 := by rw [guardPort, calls.pipeOutTcp, ← guardPort, guarded]
  refine always (_ ++ [.addTcpStream]) _ _ [] rfl _ later reached ?_
  refine ⟨1, _, _, _, held, id, rfl, asks_candidatePort later, ?_⟩
  rw [TableOp.Waits, TableOp.port, candidate]

end Mux

end BleManaged
