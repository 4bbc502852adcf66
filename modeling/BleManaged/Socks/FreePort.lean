import BleManaged.Socks.PortCycle

/-! Whether a call of `add_tcp_stream` finds a port while one is free. -/

namespace BleManaged

namespace Mux

/-- The ports that `add_tcp_stream` hands out. -/
def Assignable (port : UInt16) : Prop :=
  1 ≤ port.toNat ∧ port.toNat ≤ 65534

/-- A port that could be handed out, and under which no stream is registered. -/
def FreePort (mux : Mux) (port : UInt16) : Prop :=
  Assignable port ∧ mux.portToTcpStream port = none

/-- A call of a running mux finds a port: it refuses only when all ports are registered, and
registers the stream under a free port when there is one. -/
def FindsFreePort (mux : Mux) (label : Label) : Prop :=
  label = .addTcpStream → mux.stopped = false →
    ∃ next out, mux.step .addTcpStream = some (next, out) ∧
      (.added mux.calls (.error .tooManyOpenConnections) ∈ out →
        ∀ port, Assignable port → mux.portToTcpStream port ≠ none) ∧
      ((∃ port, mux.FreePort port) →
        ∃ port, mux.FreePort port ∧ .added mux.calls (.ok ()) ∈ out ∧
          next.portToTcpStream =
            Function.update mux.portToTcpStream port (some { writer := mux.calls }))

/-- The one port that a call tries is free, or there is no free port at all. -/
def CandidateDecides (mux : Mux) (label : Label) : Prop :=
  label = .addTcpStream → mux.stopped = false →
    mux.portToTcpStream mux.candidatePort = none ∨
      ∀ port, Assignable port → mux.portToTcpStream port ≠ none

/-- The candidate port of a sound multiplexer can be handed out. -/
theorem Sound.assignable {mux : Mux} (sound : mux.Sound) : Assignable mux.candidatePort :=
  candidatePort_range sound.ported

/-- A call that finds its candidate port free registers the stream under it. -/
theorem Sound.finds {mux : Mux} (sound : mux.Sound) (running : mux.stopped = false)
    (free : mux.portToTcpStream mux.candidatePort = none) :
    mux.FindsFreePort .addTcpStream := by
  -- Nothing is refused, and the candidate is the free port.
  intro _ _
  refine ⟨_, _, sound.added running free, by simp, ?_⟩
  intro _
  exact ⟨mux.candidatePort, ⟨sound.assignable, free⟩, by simp, rfl⟩

/-- In a sound state, a call finds a port exactly when the port it tries decides. -/
theorem Sound.finds_iff {mux : Mux} (sound : mux.Sound) (label : Label) :
    mux.FindsFreePort label ↔ mux.CandidateDecides label := by
  constructor
  · intro finds call running
    by_cases free : mux.portToTcpStream mux.candidatePort = none
    · exact .inl free
    · -- The call is refused, which it may be only when no port is free.
      obtain ⟨next, out, taken, refused, _⟩ := finds call running
      rw [step_refused free] at taken
      cases taken
      exact .inr (refused (by simp))
  · intro decides call running
    rcases decides call running with free | full
    · exact sound.finds running free rfl running
    · -- The candidate is registered like all the others, and there is nothing to be found.
      refine ⟨_, _, step_refused (full _ sound.assignable), fun _ => full, ?_⟩
      intro some
      obtain ⟨port, assignable, free⟩ := some
      exact absurd free (full port assignable)

/-- The calls of a run all find a free port exactly when the ports they try decide. -/
theorem finds_free_port_iff (labels : List Label) :
    machine.EachStep FindsFreePort labels ↔ machine.EachStep CandidateDecides labels := by
  -- Every state in which a call is made is reachable, hence sound.
  constructor
  · intro finds before label after split seen mux reached
    exact ((sound reached).finds_iff label).mp (finds before label after split seen mux reached)
  · intro decides before label after split seen mux reached
    exact ((sound reached).finds_iff label).mpr (decides before label after split seen mux reached)

/-- One stream that stays open makes the mux refuse when the ports come round, with a port free. -/
theorem refused_with_free_port : ¬∀ labels, machine.EachStep FindsFreePort labels := by
  intro always
  -- Two streams are added, the peer closes the second, and the rest of the ports are taken.
  obtain ⟨seen, mux, run, running, nextPort, table⟩ : ∃ seen mux,
      machine.Run [.addTcpStream, .addTcpStream,
        .deserialized (.ok (Packet.controlSocketClosed 2))] seen mux ∧
      mux.stopped = false ∧ mux.nextPort = 3 ∧
      mux.portToTcpStream = Function.update (fun _ => none) 1 (some { writer := 0 }) := by
    refine ⟨_, _, Lts.Run.of_exec rfl, rfl, rfl, ?_⟩
    show Function.update (Function.update (Function.update (fun _ => none) (1 : UInt16) _) 2 _)
      2 none = _
    rw [Function.update_idem]
    exact Function.update_eq_self_iff.mpr rfl
  have free : ∀ port, mux.nextPort ≤ port → mux.portToTcpStream port = none := by
    intro port above
    have other : port ≠ 1 := by
      intro same
      subst same
      simp [nextPort] at above
    simp [table, other]
  obtain ⟨more, later, reached, calls, _⟩ :=
    calls_later run running free 65532 (by simp [nextPort])
  -- The next call tries port one, which is the only port it tries.
  have candidate : later.candidatePort = 1 := calls.around (by simp [nextPort])
  have decides := (finds_free_port_iff _).mp (always (_ ++ [.addTcpStream])) _ _ [] rfl _ _ reached
  rcases decides rfl calls.stopped with first | full
  · rw [candidate, calls.kept 1 (by simp [nextPort])] at first
    simp [table] at first
  · -- Port two has been free since its stream was closed.
    refine full 2 ⟨by decide, by decide⟩ ?_
    rw [calls.kept 2 (by simp [nextPort])]
    simp [table]

end Mux

end BleManaged
