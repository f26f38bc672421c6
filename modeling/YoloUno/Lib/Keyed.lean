import Mathlib.Data.List.Nodup

/-!
# Lists of records with a key

A list of records that are looked up by a key: `find?` takes the first record
of a key and `update` changes the first record of a key. Where the keys of
the list are distinct (`(l.map key).Nodup`), both are about the one record of
the key, and the order of the list does not matter to them.

Where they are not, a key may stand for another record than the one it was
taken from. `update_eq_set_iff` and `filter_eq_eraseIdx_iff` say when changing
and removing by the key of the record at an index is changing and removing at
that index.
-/

namespace Keyed

variable {α κ : Type*} [DecidableEq κ] (key : α → κ)

/-- Change the first record with key `k`. -/
def update (k : κ) (f : α → α) (l : List α) : List α :=
  l.replaceF fun a => if key a = k then some (f a) else none

variable {key} {k : κ} {f : α → α} {l : List α}

theorem update_cons (a : α) :
    update key k f (a :: l) = if key a = k then f a :: l else a :: update key k f l := by
  unfold update
  by_cases ha : key a = k
  · rw [if_pos ha]
    simp [List.replaceF, ha]
  · rw [if_neg ha]
    simp [List.replaceF, ha]

/-- There is nothing to change where nothing is found. -/
theorem update_of_find_none (h : l.find? (fun a => key a = k) = none) :
    update key k f l = l := by
  induction l with
  | nil => rfl
  | cons a l ih =>
    rw [List.find?_eq_none] at h
    have ha : key a ≠ k := by simpa using h a (List.mem_cons_self ..)
    rw [update_cons, if_neg ha, ih]
    rw [List.find?_eq_none]
    exact fun b hb => h b (List.mem_cons_of_mem _ hb)

/-- Where keys are distinct, the first record of a key is the only one. -/
theorem update_eq_map (h : (l.map key).Nodup) :
    update key k f l = l.map fun a => if key a = k then f a else a := by
  induction l with
  | nil => rfl
  | cons a l ih =>
    rw [List.map_cons, List.nodup_cons] at h
    rw [update_cons, List.map_cons]
    by_cases ha : key a = k
    · -- the tail has no record of the key
      have htail : ∀ b ∈ l, (if key b = k then f b else b) = b := by
        intro b hb
        have hne : key b ≠ k := by
          intro hbk
          exact h.1 (ha.trans hbk.symm ▸ List.mem_map_of_mem hb)
        rw [if_neg hne]
      rw [if_pos ha, if_pos ha, List.map_congr_left htail, List.map_id']
    · rw [if_neg ha, if_neg ha, ih h.2]

theorem mem_update (h : (l.map key).Nodup) {b : α} :
    b ∈ update key k f l ↔ (∃ a ∈ l, key a = k ∧ b = f a) ∨ (b ∈ l ∧ key b ≠ k) := by
  rw [update_eq_map h, List.mem_map]
  constructor
  · intro hb
    obtain ⟨a, ha, rfl⟩ := hb
    by_cases hk : key a = k
    · rw [if_pos hk]
      exact Or.inl ⟨a, ha, hk, rfl⟩
    · rw [if_neg hk]
      exact Or.inr ⟨ha, hk⟩
  · intro hb
    rcases hb with ⟨a, ha, hk, rfl⟩ | ⟨hb, hk⟩
    · exact ⟨a, ha, if_pos hk⟩
    · exact ⟨b, hb, if_neg hk⟩

/-- The record that `find?` returns is updated in place. -/
theorem mem_update_of_find {a : α} (h : l.find? (fun b => key b = k) = some a) :
    f a ∈ update key k f l := by
  induction l with
  | nil => exact absurd h (by simp)
  | cons b l ih =>
    rw [update_cons]
    rw [List.find?_cons] at h
    by_cases hb : key b = k
    · rw [decide_eq_true hb] at h
      rw [if_pos hb, Option.some.inj h]
      exact List.mem_cons_self ..
    · rw [decide_eq_false hb] at h
      rw [if_neg hb]
      exact List.mem_cons_of_mem _ (ih h)

/-- What the change leaves of a record, it leaves of every record. -/
theorem map_update {β : Type*} {g : α → β} (hg : ∀ a, g (f a) = g a) :
    (update key k f l).map g = l.map g := by
  induction l with
  | nil => rfl
  | cons a l ih =>
    rw [update_cons]
    split
    · rw [List.map_cons, List.map_cons, hg]
    · rw [List.map_cons, List.map_cons, ih]

/-! ## Records at an index -/

variable {i : Nat} {a : α}

/-- The record at an index is found by its key, if none before it has the key. -/
theorem find_eq_of_first (h : l[i]? = some a)
    (hfirst : ∀ j < i, ∀ b, l[j]? = some b → key b ≠ key a) :
    l.find? (fun b => key b = key a) = some a := by
  obtain ⟨hi, ha⟩ := List.getElem?_eq_some_iff.mp h
  rw [List.find?_eq_some_iff_getElem]
  refine ⟨by simp, i, hi, ha, ?_⟩
  intro j hj
  simpa using hfirst j hj l[j] (List.getElem?_eq_getElem (by omega))

/-- **Changing by the key of the record at an index** changes the record at
that index, exactly if no record before it has the key. -/
theorem update_eq_set_iff (hf : ∀ b, f b ≠ b) (h : l[i]? = some a) :
    update key (key a) f l = l.set i (f a) ↔
      ∀ j < i, ∀ b, l[j]? = some b → key b ≠ key a := by
  induction l generalizing i with
  | nil => exact absurd h (by simp)
  | cons b l ih =>
    rw [update_cons]
    obtain _ | i := i
    · -- the first record is at the index
      have hb : b = a := by simpa using h
      simp [hb]
    have htail : l[i]? = some a := by simpa using h
    by_cases hb : key b = key a
    · rw [if_pos hb, List.set_cons_succ]
      constructor
      · intro heq
        exact absurd (List.cons.inj heq).1 (hf b)
      · intro hfirst
        exact absurd hb (hfirst 0 (by omega) b rfl)
    · rw [if_neg hb, List.set_cons_succ, List.cons.injEq, ih htail]
      constructor
      · rintro ⟨-, hfirst⟩ (_ | j) hj c hc
        · rw [← (Option.some.inj hc : b = c)]
          exact hb
        · exact hfirst j (by omega) c hc
      · intro hfirst
        exact ⟨rfl, fun j hj c hc => hfirst (j + 1) (by omega) c hc⟩

/-- **Removing by the key of the record at an index** removes the record at
that index, exactly if no other record has the key. -/
theorem filter_eq_eraseIdx_iff (h : l[i]? = some a) :
    l.filter (fun b => key b ≠ key a) = l.eraseIdx i ↔
      ∀ j b, l[j]? = some b → key b = key a → j = i := by
  induction l generalizing i with
  | nil => exact absurd h (by simp)
  | cons b l ih =>
    obtain _ | i := i
    · have hb : b = a := by simpa using h
      rw [hb, List.filter_cons_of_neg (by simp), List.eraseIdx_cons_zero, List.filter_eq_self]
      constructor
      · rintro hnone (_ | j) c hc hkey
        · rfl
        · exact absurd hkey (by simpa using hnone c (List.mem_of_getElem? hc))
      · intro honly c hc
        obtain ⟨j, hj⟩ := List.getElem?_of_mem hc
        have hne : key c ≠ key a := fun hkey => absurd (honly (j + 1) c hj hkey) (by omega)
        simpa using hne
    have htail : l[i]? = some a := by simpa using h
    rw [List.eraseIdx_cons_succ]
    by_cases hb : key b = key a
    · -- a record before the index is removed as well
      rw [List.filter_cons_of_neg (by simpa using hb)]
      constructor
      · intro heq
        have hmem : b ∈ l.filter fun b => key b ≠ key a := heq ▸ List.mem_cons_self ..
        exact absurd hb (by simpa using List.of_mem_filter hmem)
      · intro honly
        exact absurd (honly 0 b rfl hb) (by omega)
    · rw [List.filter_cons_of_pos (by simpa using hb), List.cons.injEq, ih htail]
      constructor
      · rintro ⟨-, honly⟩ (_ | j) c hc hkey
        · rw [← (Option.some.inj hc : b = c)] at hkey
          exact absurd hkey hb
        · rw [honly j c hc hkey]
      · intro honly
        refine ⟨rfl, fun j c hc hkey => ?_⟩
        have := honly (j + 1) c hc hkey
        omega

end Keyed
