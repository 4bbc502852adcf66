import Mathlib.Tactic.Common

/-! Reading a source until its first failure. -/

/-- A fallible reader of items whose state gets smaller with every item it returns. -/
structure Source (σ ε α : Type) where
  /-- Read one item, or fail. -/
  next : σ → Except ε α × σ
  /-- How much is left to read. -/
  size : σ → Nat
  /-- No item is read for free, so reading on must fail at some point. -/
  shrinks : ∀ {state item rest}, next state = (.ok item, rest) → size rest < size state

namespace Source

variable {σ τ ε α β : Type}

/-- All items up to the first failure, that failure, and the state it leaves. -/
def drain (source : Source σ ε α) (state : σ) : List α × ε × σ :=
  -- The equation of the match is what shows that the rest is smaller.
  match _read : source.next state with
  | (.ok item, rest) => (item :: (source.drain rest).1, (source.drain rest).2)
  | (.error error, rest) => ([], error, rest)
termination_by source.size state
decreasing_by all_goals exact source.shrinks _read

/-- An item that is read comes first, and draining goes on behind it. -/
theorem drain_ok (source : Source σ ε α) {state rest : σ} {item : α}
    (read : source.next state = (.ok item, rest)) :
    source.drain state = (item :: (source.drain rest).1, (source.drain rest).2) := by
  -- The other branch of the match would have to be a failure.
  rw [drain]
  split
  · rename_i found
    rw [read] at found
    cases found
    rfl
  · rename_i found
    rw [read] at found
    cases found

/-- The first failure ends the drain and is reported as it is. -/
theorem drain_error (source : Source σ ε α) {state rest : σ} {error : ε}
    (read : source.next state = (.error error, rest)) :
    source.drain state = ([], error, rest) := by
  -- The other branch of the match would have to be an item.
  rw [drain]
  split
  · rename_i found
    rw [read] at found
    cases found
  · rename_i found
    rw [read] at found
    cases found
    rfl

/-- Sources that answer alike from related states yield the same items and the same failure. -/
theorem drain_related {left : Source σ ε α} {right : Source τ ε α} (related : σ → τ → Prop)
    (alike : ∀ s t, related s t → (left.next s).1 = (right.next t).1 ∧
      related (left.next s).2 (right.next t).2)
    {s : σ} {t : τ} (start : related s t) :
    (left.drain s).1 = (right.drain t).1 ∧ (left.drain s).2.1 = (right.drain t).2.1 ∧
      related (left.drain s).2.2 (right.drain t).2.2 := by
  -- The induction follows the left drain, and the right one is forced to take the same branch.
  fun_induction left.drain s generalizing t with
  | case1 s item rest read ih =>
    -- Both sides read the same item, and are related again behind it.
    obtain ⟨answers, kept⟩ := alike s t start
    have mirrored : right.next t = (.ok item, (right.next t).2) := by
      rw [read] at answers
      exact Prod.ext answers.symm rfl
    rw [read] at kept
    rw [right.drain_ok mirrored]
    obtain ⟨items, errors, ends⟩ := ih kept
    exact ⟨by simp [items], errors, ends⟩
  | case2 s error rest read =>
    -- Both sides fail alike.
    obtain ⟨answers, kept⟩ := alike s t start
    have mirrored : right.next t = (.error error, (right.next t).2) := by
      rw [read] at answers
      exact Prod.ext answers.symm rfl
    rw [read] at kept
    rw [right.drain_error mirrored]
    exact ⟨rfl, rfl, kept⟩

/-- Encodings laid end to end are read back in order, whatever follows them. -/
theorem drain_encoded {source : Source (List β) ε α} {encode : α → List β} (items : List α)
    (decodes : ∀ item ∈ items, ∀ rest, source.next (encode item ++ rest) = (.ok item, rest))
    (rest : List β) :
    source.drain (items.flatMap encode ++ rest) =
      (items ++ (source.drain rest).1, (source.drain rest).2) := by
  -- The first encoding is read off exactly, leaving the same statement about the others.
  induction items with
  | nil => rfl
  | cons item items ih =>
    have first := decodes item (by simp) (items.flatMap encode ++ rest)
    have others := ih fun other member => decodes other (by simp [member])
    rw [List.flatMap_cons, List.append_assoc, source.drain_ok first, others]
    rfl

end Source
