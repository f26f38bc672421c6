import Mathlib.Data.List.Basic

/-!
# Lists with one marked element

Things are created at the end of a list and change in place; some of them are
marked (alive, pending, held), which `p` decides. A list is `Unmarked` when
none of its elements is, and `Sole` at `i` when the element at `i` is and no
other.

The rules say how the two follow from each other: an unmarked list gains its
one marked element at the end (`Unmarked.concat`), a list loses it when that
element changes (`Sole.modify`), and both are kept by changes that do not
touch the mark.
-/

namespace Sole

variable {α : Type*} (p : α → Bool)

def Unmarked (l : List α) : Prop := ∀ a ∈ l, p a = false

/-- The element at `i` is marked, and it is the only one. -/
structure At (l : List α) (i : Nat) : Prop where
  lt   : i < l.length
  only : ∀ k a, l[k]? = some a → (p a = true ↔ k = i)

variable {p} {l : List α} {i k : Nat} {a : α} {f : α → α}

/-- A marked element is the one there is. -/
theorem At.eq_of_marked (h : At p l i) (hk : l[k]? = some a) (ha : p a = true) : k = i :=
  (h.only k a hk).mp ha

theorem At.not_unmarked (h : At p l i) : ¬ Unmarked p l := by
  intro hnone
  obtain ⟨a, ha⟩ : ∃ a, l[i]? = some a := ⟨_, List.getElem?_eq_getElem h.lt⟩
  have hmarked : p a = true := (h.only i a ha).mpr rfl
  rw [hnone a (List.mem_of_getElem? ha)] at hmarked
  exact absurd hmarked (by simp)

/-- One marked element at the end of an unmarked list. -/
theorem Unmarked.concat (h : Unmarked p l) (ha : p a = true) : At p (l ++ [a]) l.length := by
  refine ⟨by simp, ?_⟩
  intro k b hk
  rcases Nat.lt_trichotomy k l.length with hlt | rfl | hgt
  · rw [List.getElem?_append_left hlt] at hk
    have hb : p b = false := h b (List.mem_of_getElem? hk)
    simp only [hb, Bool.false_eq_true, false_iff]
    omega
  · rw [List.getElem?_concat_length, Option.some.injEq] at hk
    simp [← hk, ha]
  · rw [List.getElem?_eq_none (by simp; omega)] at hk
    exact absurd hk (by simp)

theorem of_getElem?_modify {j : Nat} (h : (l.modify k f)[j]? = some a) :
    ∃ b, l[j]? = some b ∧ a = if k = j then f b else b := by
  rw [List.getElem?_modify] at h
  obtain ⟨b, hb, hab⟩ := Option.map_eq_some_iff.mp h
  exact ⟨b, hb, hab.symm⟩

theorem of_mem_modify (h : a ∈ l.modify k f) :
    ∃ j b, l[j]? = some b ∧ a = if k = j then f b else b := by
  obtain ⟨j, hj⟩ := List.getElem?_of_mem h
  exact ⟨j, of_getElem?_modify hj⟩

/-- A change that does not touch the mark. -/
theorem Unmarked.modify_of_same (h : Unmarked p l) (hf : ∀ b, p (f b) = p b) (k : Nat) :
    Unmarked p (l.modify k f) := by
  intro a ha
  obtain ⟨j, b, hb, rfl⟩ := of_mem_modify ha
  have hmark : p b = false := h b (List.mem_of_getElem? hb)
  split
  · rw [hf, hmark]
  · exact hmark

theorem At.modify_of_same (h : At p l i) (hf : ∀ b, p (f b) = p b) (k : Nat) :
    At p (l.modify k f) i := by
  refine ⟨by simpa using h.lt, ?_⟩
  intro j a ha
  obtain ⟨b, hb, rfl⟩ := of_getElem?_modify ha
  rw [← h.only j b hb]
  split
  · rw [hf]
  · rfl

/-- The one marked element loses its mark. -/
theorem At.modify (h : At p l i) (hf : ∀ b, p (f b) = false) : Unmarked p (l.modify i f) := by
  intro a ha
  obtain ⟨j, b, hb, rfl⟩ := of_mem_modify ha
  split
  · exact hf b
  · next hne =>
    have hmark : ¬ p b = true := fun hmark => hne (h.eq_of_marked hb hmark).symm
    simpa using hmark

end Sole
