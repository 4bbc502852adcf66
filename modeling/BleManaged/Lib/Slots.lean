import Mathlib.Tactic.Common

/-! Lists that only grow at their end and whose items are replaced in place. -/

namespace Slots

variable {α : Type} {items : List α} {item other : α} {index place : Nat}

/-- After an item is replaced, a place holds the new item or what it held before. -/
theorem of_set (found : (items.set index item)[place]? = some other) :
    place = index ∧ other = item ∨ place ≠ index ∧ items[place]? = some other := by
  rw [List.getElem?_set] at found
  by_cases same : index = place
  · rw [if_pos same] at found
    split at found
    · exact .inl ⟨same.symm, (Option.some.inj found).symm⟩
    · cases found
  · rw [if_neg same] at found
    exact .inr ⟨fun again => same again.symm, found⟩

/-- An item that replaces another is where that one was. -/
theorem set_of (found : items[place]? = some other) :
    (items.set place item)[place]? = some item :=
  List.getElem?_set_self (List.getElem?_eq_some_iff.mp found).1

/-- After an item is modified, a place holds the modified item or what it held before. -/
theorem of_modify {change : α → α} (found : (items.modify index change)[place]? = some other) :
    (place = index ∧ ∃ before, items[index]? = some before ∧ other = change before) ∨
      place ≠ index ∧ items[place]? = some other := by
  rw [List.getElem?_modify] at found
  obtain ⟨before, held, same⟩ := Option.map_eq_some_iff.mp found
  by_cases here : index = place
  · subst here
    rw [if_pos rfl] at same
    exact .inl ⟨rfl, before, held, same.symm⟩
  · rw [if_neg here] at same
    subst same
    exact .inr ⟨fun again => here again.symm, held⟩

/-- After an item is added, a place holds the new item or what it held before. -/
theorem of_push (found : (items ++ [item])[place]? = some other) :
    place = items.length ∧ other = item ∨ items[place]? = some other := by
  by_cases within : place < items.length
  · rw [List.getElem?_append_left within] at found
    exact .inr found
  · rw [List.getElem?_append_right (by omega)] at found
    obtain ⟨first, same⟩ := List.getElem?_eq_some_iff.mp found
    simp only [List.length_singleton] at first
    refine .inl ⟨by omega, ?_⟩
    simpa using same.symm

/-- After an item is added, the other places hold what they held before. -/
theorem push_of (found : items[place]? = some other) : (items ++ [item])[place]? = some other := by
  rw [List.getElem?_append_left (List.getElem?_eq_some_iff.mp found).1, found]

/-- How many items are of a kind after one of them is replaced. -/
theorem countP_set (found : items[place]? = some other) (kind : α → Bool) :
    (items.set place item).countP kind + (kind other).toNat =
      items.countP kind + (kind item).toNat := by
  -- The induction follows the place, up to the item that is replaced.
  induction items generalizing place with
  | nil => cases found
  | cons first items ih =>
    cases place with
    | zero =>
      cases found
      simp only [List.set_cons_zero, List.countP_cons]
      cases kind item <;> cases kind other <;> simp
    | succ place =>
      have rest := ih found
      simp only [List.set_cons_succ, List.countP_cons]
      omega

/-- An item that is modified is replaced by what it is changed to. -/
theorem modify_eq_set {change : α → α} (found : items[place]? = some item) :
    items.modify place change = items.set place (change item) := by
  have : Inhabited α := ⟨item⟩
  rw [List.modify_eq_set, found]
  rfl

/-- At most one place holds an item of a kind. -/
def AtMostOne (items : List α) (kind : α → Prop) : Prop :=
  ∀ (place other : Nat) (item another : α), items[place]? = some item →
    items[other]? = some another → kind item → kind another → place = other

end Slots
