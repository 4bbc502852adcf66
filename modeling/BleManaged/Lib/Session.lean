import Mathlib.Tactic.Common

/-! Logs that are cut into sessions, each opened, used and closed by one owner. -/

/-- Which entries of a log open, use and close a session of which owner. -/
structure SessionGrammar (ι α : Type) where
  /-- The entry opens a session for this owner. -/
  opens : ι → α → Prop
  /-- The entry belongs to an open session of this owner. -/
  carries : ι → α → Prop
  /-- The entry closes a session of this owner. -/
  closes : ι → α → Prop

namespace SessionGrammar

variable {ι α : Type} (g : SessionGrammar ι α)

/-- A session that has been opened and is still in use. -/
def Open (owner : ι) (log : List α) : Prop :=
  -- The opening is always there, and any number of uses may follow it.
  ∃ first body, log = first :: body ∧ g.opens owner first ∧ ∀ entry ∈ body, g.carries owner entry

/-- A session that its owner has closed. -/
def Closed (owner : ι) (log : List α) : Prop :=
  -- What comes before the close is a session that is still open.
  ∃ body last, log = body ++ [last] ∧ g.Open owner body ∧ g.closes owner last

/-- The close of a session is optional. -/
def Session (log : List α) : Prop :=
  ∃ owner, g.Open owner log ∨ g.Closed owner log

/-- A log made of whole sessions, one after the other. -/
def Sessions (log : List α) : Prop :=
  -- The parts do not overlap, because the log is what they are laid end to end.
  ∃ parts : List (List α), log = parts.flatten ∧ ∀ part ∈ parts, g.Session part

/-- A log of sessions whose last one belongs to an owner that has not closed it. -/
def OpenAtEnd (owner : ι) (log : List α) : Prop :=
  ∃ done current, log = done ++ current ∧ g.Sessions done ∧ g.Open owner current

variable {g}

/-- The empty log has no sessions. -/
theorem sessions_nil : g.Sessions [] := ⟨[], rfl, by simp⟩

/-- One more session can follow any log of sessions. -/
theorem Sessions.append {log part : List α} (sessions : g.Sessions log)
    (session : g.Session part) : g.Sessions (log ++ part) := by
  -- The new session is one more part, behind all others.
  obtain ⟨parts, rfl, each⟩ := sessions
  refine ⟨parts ++ [part], by simp, ?_⟩
  intro other member
  rcases List.mem_append.mp member with earlier | final
  · exact each other earlier
  · rw [List.mem_singleton.mp final]
    exact session

/-- An unclosed last session is a session like the others. -/
theorem OpenAtEnd.sessions {owner : ι} {log : List α} (opened : g.OpenAtEnd owner log) :
    g.Sessions log := by
  -- A session need not be closed.
  obtain ⟨done, current, rfl, before, now⟩ := opened
  exact before.append ⟨owner, .inl now⟩

/-- Opening starts a new last session, whoever owned the one before. -/
theorem Sessions.opened {owner : ι} {log : List α} {entry : α} (sessions : g.Sessions log)
    (opens : g.opens owner entry) : g.OpenAtEnd owner (log ++ [entry]) :=
  -- The last session is the opening alone.
  ⟨log, [entry], rfl, sessions, entry, [], rfl, opens, by simp⟩

/-- The owner of the last session can go on using it. -/
theorem OpenAtEnd.carried {owner : ι} {log : List α} {entry : α}
    (opened : g.OpenAtEnd owner log) (carries : g.carries owner entry) :
    g.OpenAtEnd owner (log ++ [entry]) := by
  -- The entry is put behind the uses of the last session, and the others stay as they are.
  obtain ⟨done, _, rfl, before, first, body, rfl, opens, each⟩ := opened
  refine ⟨done, first :: (body ++ [entry]), by simp, before, first, _, rfl, opens, ?_⟩
  intro other member
  rcases List.mem_append.mp member with earlier | final
  · exact each other earlier
  · rw [List.mem_singleton.mp final]
    exact carries

/-- The owner of the last session can close it. -/
theorem OpenAtEnd.closed {owner : ι} {log : List α} {entry : α}
    (opened : g.OpenAtEnd owner log) (closes : g.closes owner entry) :
    g.Sessions (log ++ [entry]) := by
  -- The last session and its close together are one more whole session.
  obtain ⟨done, current, rfl, before, now⟩ := opened
  rw [List.append_assoc]
  exact before.append ⟨owner, .inr ⟨current, entry, rfl, now, closes⟩⟩

/-- Every entry of a session is its opening or is produced by the owner of its opening. -/
theorem Session.head {part : List α} (session : g.Session part) :
    ∃ owner first body, part = first :: body ∧ g.opens owner first ∧
      ∀ entry ∈ body, g.carries owner entry ∨ g.closes owner entry := by
  -- Either the session is still open, or its last entry is its close.
  obtain ⟨owner, ⟨first, body, rfl, opens, each⟩ | ⟨_, last, rfl, now, closes⟩⟩ := session
  · exact ⟨owner, first, body, rfl, opens, fun entry member => .inl (each entry member)⟩
  · obtain ⟨first, body, rfl, opens, each⟩ := now
    refine ⟨owner, first, body ++ [last], rfl, opens, fun entry member => ?_⟩
    rcases List.mem_append.mp member with earlier | final
    · exact .inl (each entry earlier)
    · rw [List.mem_singleton.mp final]
      exact .inr closes

/-- Entries name their owner, and an opening is never taken for use or for a close. -/
structure Unambiguous (g : SessionGrammar ι α) : Prop where
  /-- No entry is used or closed for two owners. -/
  owner : ∀ {i j entry}, g.carries i entry ∨ g.closes i entry →
    g.carries j entry ∨ g.closes j entry → i = j
  /-- No entry both opens a session and uses or closes one. -/
  opening : ∀ {i j entry}, g.opens i entry → ¬(g.carries j entry ∨ g.closes j entry)

/-- Whoever uses or closes a session after some opening was itself opened there or later. -/
theorem Sessions.opened_since (clear : g.Unambiguous) {log before after : List α} {entry : α}
    {opener : ι} (sessions : g.Sessions log) (split : log = before ++ entry :: after)
    (opens : g.opens opener entry) {owner : ι} {later : α} (member : later ∈ after)
    (used : g.carries owner later ∨ g.closes owner later) :
    ∃ first ∈ entry :: after, g.opens owner first := by
  -- The opening lies in one of the sessions, and the induction finds which.
  obtain ⟨parts, rfl, each⟩ := sessions
  induction parts generalizing before with
  | nil => simp at split
  | cons part parts ih =>
    obtain ⟨holder, first, body, rfl, begins, inside⟩ := (each part (by simp)).head
    rw [List.flatten_cons, List.cons_append] at split
    cases before with
    | nil =>
      -- The opening heads this session, so a later use is in its body or in a later session.
      obtain ⟨rfl, rfl⟩ := List.cons.inj split
      rcases List.mem_append.mp member with here | there
      · obtain rfl := clear.owner (inside later here) used
        exact ⟨first, by simp, begins⟩
      · -- A later session is headed by its own opening, which is behind this one.
        obtain ⟨other, among, held⟩ := List.mem_flatten.mp there
        obtain ⟨keeper, start, rest, rfl, starts, uses⟩ :=
          (each other (by simp [among])).head
        rcases List.mem_cons.mp held with rfl | within
        · exact absurd used (clear.opening starts)
        · obtain rfl := clear.owner (uses later within) used
          exact ⟨start, by
            simp only [List.mem_cons, List.mem_append, List.mem_flatten]
            exact .inr (.inr ⟨_, among, by simp⟩), starts⟩
    | cons head before =>
      rw [List.cons_append] at split
      obtain ⟨rfl, tails⟩ := List.cons.inj split
      rcases List.append_eq_append_iff.mp tails with ⟨gap, inBefore, rest⟩ | ⟨gap, inBody, rest⟩
      · -- The opening lies in one of the later sessions.
        exact ih (fun other among => each other (by simp [among])) rest
      · -- An opening strictly inside this session would be a use of it, which no opening is.
        cases gap with
        | nil =>
          -- The opening heads the next session, where the induction takes over.
          have whole : parts.flatten = [] ++ entry :: after := rest.symm
          exact ih (fun other among => each other (by simp [among])) whole
        | cons gapHead gap =>
          obtain ⟨rfl, _⟩ := List.cons.inj rest
          exact absurd (inside entry (by simp [inBody])) (clear.opening opens)

end SessionGrammar
