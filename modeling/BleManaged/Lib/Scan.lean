import Mathlib.Tactic.Common

/-! Loops that visit one item after the other until a visit fails or decides. -/

namespace Scan

variable {α β ε : Type} {visit : α → Except ε (Option β)}

/-- A visit that neither fails nor decides lets the loop go on. -/
def Passes (visit : α → Except ε (Option β)) (item : α) : Prop :=
  visit item = .ok none

/-- The loop goes on behind an item that passes. -/
theorem cons_of_passes {item : α} {rest : List α} (passes : Passes visit item) :
    (item :: rest).findSomeM? visit = rest.findSomeM? visit := by
  rw [List.findSomeM?_cons, passes]
  rfl

/-- The loop ends with an item that does not pass, whatever comes behind it. -/
theorem cons_of_not_passes {item : α} (rest : List α) (decides : ¬Passes visit item) :
    (item :: rest).findSomeM? visit = visit item := by
  rw [List.findSomeM?_cons]
  -- A failure ends the loop, and so does a decision.
  cases outcome : visit item with
  | error error => rfl
  | ok decision =>
    cases decision with
    | none => exact absurd outcome decides
    | some value => rfl

/-- Items that pass can be left out in front. -/
theorem append_of_passes {before : List α} (rest : List α)
    (passes : ∀ item ∈ before, Passes visit item) :
    (before ++ rest).findSomeM? visit = rest.findSomeM? visit := by
  induction before with
  | nil => rfl
  | cons item before ih =>
    rw [List.cons_append, cons_of_passes (passes item (by simp))]
    exact ih fun other member => passes other (by simp [member])

/-- Either every item passes, or the first one that does not decides. -/
theorem cases (visit : α → Except ε (Option β)) (items : List α) :
    (∀ item ∈ items, Passes visit item) ∨
      ∃ before item after, items = before ++ item :: after ∧
        (∀ other ∈ before, Passes visit other) ∧ ¬Passes visit item := by
  induction items with
  | nil => exact .inl (by simp)
  | cons item items ih =>
    by_cases passes : Passes visit item
    · rcases ih with all | ⟨before, decider, after, rfl, pass, decides⟩
      · exact .inl (by simpa [passes] using all)
      · exact .inr ⟨item :: before, decider, after, rfl, by simpa [passes] using pass, decides⟩
    · exact .inr ⟨[], item, items, rfl, by simp, passes⟩

/-- Without a decision the loop comes to the end of the items. -/
theorem of_all {items : List α} (passes : ∀ item ∈ items, Passes visit item) :
    items.findSomeM? visit = .ok none := by
  have whole := append_of_passes [] passes
  rw [List.append_nil] at whole
  exact whole

/-- The first item that does not pass gives the outcome of the loop. -/
theorem of_split {before after : List α} {item : α}
    (passes : ∀ other ∈ before, Passes visit other) (decides : ¬Passes visit item) :
    (before ++ item :: after).findSomeM? visit = visit item := by
  rw [append_of_passes _ passes, cons_of_not_passes _ decides]

/-- The loop decides nothing exactly when every item passes. -/
theorem eq_none_iff {items : List α} :
    items.findSomeM? visit = .ok none ↔ ∀ item ∈ items, Passes visit item := by
  refine ⟨fun nothing => ?_, of_all⟩
  rcases cases visit items with all | ⟨before, item, after, rfl, passes, decides⟩
  · exact all
  · rw [of_split passes decides] at nothing
    exact absurd nothing decides

/-- The loop decides on a value exactly when the first item that does not pass does so. -/
theorem eq_some_iff {items : List α} {value : β} :
    items.findSomeM? visit = .ok (some value) ↔
      ∃ before item after, items = before ++ item :: after ∧
        (∀ other ∈ before, Passes visit other) ∧ visit item = .ok (some value) := by
  constructor
  · intro decided
    -- The scan ends at the first item that does not pass, and only that one decides.
    rcases cases visit items with all | ⟨before, item, after, rfl, passes, decides⟩
    · rw [of_all all] at decided
      cases decided
    · rw [of_split passes decides] at decided
      exact ⟨before, item, after, rfl, passes, decided⟩
  · intro split
    obtain ⟨before, item, after, rfl, passes, decided⟩ := split
    have decides : ¬Passes visit item := by simp [Passes, decided]
    rw [of_split passes decides, decided]

/-- What a visit comes to that settles on what it picks, if it picks anything. -/
def settled {γ : Type} (settle : γ → Except ε β) : Option γ → Except ε (Option β)
  | none => .ok none
  | some picked => (settle picked).map some

/-- A loop whose visits settle on what they pick settles on what is picked first. -/
theorem of_picks {γ : Type} {items : List α} {pick : α → Option γ} {settle : γ → Except ε β}
    (same : ∀ item ∈ items, visit item = settled settle (pick item)) :
    items.findSomeM? visit = settled settle (items.findSome? pick) := by
  induction items with
  | nil => rfl
  | cons item items ih =>
    have first := same item (by simp)
    cases found : pick item with
    | none =>
      rw [cons_of_passes (first.trans (by rw [found]; rfl)), List.findSome?_cons, found]
      exact ih fun other member => same other (by simp [member])
    | some picked =>
      rw [found] at first
      -- Settling fails or decides, and the loop ends either way.
      have decides : ¬Passes visit item := by
        intro passes
        rw [Passes, first, settled] at passes
        cases outcome : settle picked with
        | error error =>
          rw [outcome] at passes
          cases passes
        | ok value =>
          rw [outcome] at passes
          cases passes
      rw [cons_of_not_passes _ decides, first, List.findSome?_cons, found]

/-- A loop whose visits cannot fail is a search. -/
theorem of_ok {items : List α} {search : α → Option β}
    (same : ∀ item ∈ items, visit item = .ok (search item)) :
    items.findSomeM? visit = .ok (items.findSome? search) := by
  -- Settling on what is picked changes nothing.
  have kept : ∀ found : Option β, (settled .ok found : Except ε (Option β)) = .ok found := by
    intro found
    cases found <;> rfl
  rw [of_picks fun item member => (same item member).trans (kept _).symm, kept]

/-- A loop over items that stand for others is a loop over the others. -/
theorem of_map {γ : Type} (items : List γ) (stand : γ → α) :
    (items.map stand).findSomeM? visit = items.findSomeM? fun item => visit (stand item) := by
  induction items with
  | nil => rfl
  | cons item items ih =>
    rw [List.map_cons, List.findSomeM?_cons, List.findSomeM?_cons, ih]

/-- If just some items pick anything, then the first of them picks first. -/
theorem findSome?_ite {γ : Type} (items : List α) (wanted : α → Prop) [DecidablePred wanted]
    (pick : α → Option γ) (picks : ∀ item ∈ items, wanted item → (pick item).isSome) :
    (items.findSome? fun item => if wanted item then pick item else none) =
      (items.find? fun item => wanted item).bind pick := by
  induction items with
  | nil => rfl
  | cons item items ih =>
    rw [List.findSome?_cons, List.find?_cons]
    by_cases first : wanted item
    · obtain ⟨picked, found⟩ := Option.isSome_iff_exists.mp (picks item (by simp) first)
      simp [first, found]
    · simp only [first, if_false, decide_false]
      exact ih fun other member => picks other (by simp [member])

/-- A search for anything wanted finds something if there is such an item. -/
theorem findSome?_exists (items : List α) (wanted : α → Prop) [DecidablePred wanted] :
    (items.findSome? fun item => if wanted item then some () else none) =
      if ∃ item ∈ items, wanted item then some () else none := by
  by_cases present : ∃ item ∈ items, wanted item
  · rw [if_pos present]
    obtain ⟨item, member, wants⟩ := present
    have found : (items.findSome? fun item => if wanted item then some () else none).isSome :=
      List.findSome?_isSome_iff.mpr ⟨item, member, by simp [wants]⟩
    obtain ⟨value, found⟩ := Option.isSome_iff_exists.mp found
    exact found
  · rw [if_neg present]
    refine List.findSome?_eq_none_iff.mpr fun item member => ?_
    exact if_neg fun wants => present ⟨item, member, wants⟩

/-- What a loop comes to without a failure, in terms of what its visits come to. -/
def Comes (visits : α → Option β → Prop) (items : List α) : Option β → Prop
  | none => ∀ item ∈ items, visits item none
  | some value =>
    ∃ before item after, items = before ++ item :: after ∧
      (∀ other ∈ before, visits other none) ∧ visits item (some value)

/-- A loop comes to what its visits make it come to. -/
theorem eq_ok_iff {visits : α → Option β → Prop}
    (same : ∀ item outcome, visit item = .ok outcome ↔ visits item outcome) {items : List α}
    {outcome : Option β} : items.findSomeM? visit = .ok outcome ↔ Comes visits items outcome := by
  cases outcome with
  | none => simp only [eq_none_iff, Passes, same, Comes]
  | some value => simp only [eq_some_iff, Passes, same, Comes]

section Insertion

/-- Where an item of a longer list comes from. -/
inductive Origin where
  | original
  | inserted
  deriving DecidableEq, Repr

/-- The items that were there before the insertion. -/
def originals (entries : List (Origin × α)) : List α :=
  (entries.filter fun entry => entry.1 = .original).map Prod.snd

/-- All the items. -/
def all (entries : List (Origin × α)) : List α := entries.map Prod.snd

/-- The first item that does not pass, if there is one, was there before. -/
def FirstOriginal (passes : α → Prop) (entries : List (Origin × α)) : Prop :=
  ∀ before entry after, entries = before ++ entry :: after →
    (∀ other ∈ before, passes other.2) → ¬passes entry.2 → entry.1 = .original

/-- An entry that passes does not matter. -/
theorem firstOriginal_cons_of_passes {pass : α → Prop} {entry : Origin × α}
    {entries : List (Origin × α)} (passes : pass entry.2) :
    FirstOriginal pass (entry :: entries) ↔ FirstOriginal pass entries := by
  constructor
  · intro first before decider after split earlier
    refine first (entry :: before) decider after (by rw [split]; rfl) ?_
    intro other member
    rcases List.mem_cons.mp member with rfl | member
    · exact passes
    · exact earlier other member
  · intro first before decider after split earlier decides
    cases before with
    | nil =>
      -- The entry itself passes, so it is not the one that does not.
      cases split
      exact absurd passes decides
    | cons head before =>
      obtain ⟨rfl, rest⟩ := List.cons.inj split
      exact first before decider after rest (fun other member => earlier other (by simp [member]))
        decides

/-- An entry that does not pass is the only one that matters. -/
theorem firstOriginal_cons_of_not_passes {pass : α → Prop} {entry : Origin × α}
    {entries : List (Origin × α)} (decides : ¬pass entry.2) :
    FirstOriginal pass (entry :: entries) ↔ entry.1 = .original := by
  constructor
  · exact fun first => first [] entry entries rfl (by simp) decides
  · intro original before decider after split earlier _
    cases before with
    | nil =>
      cases split
      exact original
    | cons head before =>
      -- Nothing that comes later has only entries that pass before it.
      obtain ⟨rfl, _⟩ := List.cons.inj split
      exact absurd (earlier entry (by simp)) decides

/-- If inserted items never decide on a value, a decision is kept exactly when none of them comes
first to fail. -/
theorem insert_iff {entries : List (Origin × α)} {value : β}
    (decided : (originals entries).findSomeM? visit = .ok (some value))
    (never : ∀ item, (.inserted, item) ∈ entries → ∀ other, visit item ≠ .ok (some other)) :
    (all entries).findSomeM? visit = .ok (some value) ↔ FirstOriginal (Passes visit) entries := by
  induction entries with
  | nil => cases decided
  | cons entry entries ih =>
    obtain ⟨origin, item⟩ := entry
    have later : ∀ item, (.inserted, item) ∈ entries → ∀ other, visit item ≠ .ok (some other) :=
      fun item member => never item (by simp [member])
    show (item :: all entries).findSomeM? visit = .ok (some value) ↔ _
    by_cases passes : Passes visit item
    · -- An item that passes changes neither of the two loops.
      rw [cons_of_passes passes, firstOriginal_cons_of_passes passes]
      refine ih ?_ later
      cases origin with
      | inserted => exact decided
      | original => exact (cons_of_passes passes).symm.trans decided
    · rw [cons_of_not_passes _ passes, firstOriginal_cons_of_not_passes passes]
      cases origin with
      | inserted => simp [never item (by simp)]
      | original =>
        -- The loop over the original items ends with the same item.
        have same := (cons_of_not_passes (originals entries) passes).symm.trans decided
        simp [same]

end Insertion

end Scan
