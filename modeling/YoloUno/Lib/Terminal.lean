import Mathlib.Data.List.Basic

/-!
# One line of a terminal

The line a terminal's cursor is on, as far as a line editor can tell. Each
cell holds a character the program printed or the echo of a key, and the
cursor stands between two cells. Printing overwrites; a backspace moves the
cursor and clears nothing; a carriage return goes back to the start of the
line and a newline opens an empty one.

`write_rubout` is the law an editor relies on: backspace, space, backspace
clears the cell left of the cursor, whatever it holds.
-/

namespace Terminal

variable {κ : Type*}

inductive Cell (κ : Type*)
  | text (c : Char)
  | key (k : κ)
  deriving DecidableEq

/-- The key a cell is the echo of. -/
def Cell.key? : Cell κ → Option κ
  | .text _ => none
  | .key k => some k

/-- The cells left of the cursor, and those right of it. -/
structure Line (κ : Type*) where
  before : List (Cell κ)
  after  : List (Cell κ)

def Line.empty : Line κ := ⟨[], []⟩

def Line.put (l : Line κ) (cell : Cell κ) : Line κ := ⟨l.before ++ [cell], l.after.drop 1⟩

def Line.back (l : Line κ) : Line κ :=
  match l.before.getLast? with
  | none => l
  | some cell => ⟨l.before.dropLast, cell :: l.after⟩

/-- One printed character. -/
def Line.putChar (l : Line κ) (c : Char) : Line κ :=
  if c = '\n' then .empty
  else if c = '\r' then ⟨[], l.before ++ l.after⟩
  else if c = '\x08' then l.back
  else l.put (.text c)

def Line.write (l : Line κ) (text : List Char) : Line κ := text.foldl Line.putChar l

/-- The keys whose echo is on the line. -/
def Line.keys (l : Line κ) : List κ := (l.before ++ l.after).filterMap Cell.key?

/-! ## Printed text leaves no echo -/

/-- No echo is on the line. -/
def Line.Clear (l : Line κ) : Prop := l.keys = []

theorem keys_mk (before after : List (Cell κ)) :
    (Line.mk before after).keys = before.filterMap Cell.key? ++ after.filterMap Cell.key? :=
  List.filterMap_append

theorem clear_mk {before after : List (Cell κ)} :
    (Line.mk before after).Clear ↔
      before.filterMap Cell.key? = [] ∧ after.filterMap Cell.key? = [] := by
  rw [Line.Clear, keys_mk, List.append_eq_nil_iff]

theorem Line.Clear.back {l : Line κ} (h : l.Clear) : l.back.Clear := by
  unfold Line.back
  cases hlast : l.before.getLast? with
  | none => exact h
  | some cell =>
    -- the cells are the same, only the cursor has moved
    have hbefore : l.before.dropLast ++ [cell] = l.before := List.dropLast_append_getLast? _ hlast
    show ((l.before.dropLast ++ cell :: l.after).filterMap Cell.key?) = []
    rw [← List.singleton_append, ← List.append_assoc, hbefore]
    exact h

theorem Line.Clear.putChar {l : Line κ} (h : l.Clear) (c : Char) : (l.putChar c).Clear := by
  obtain ⟨before, after⟩ := l
  have hcells := clear_mk.mp h
  unfold Line.putChar
  split
  · rfl
  split
  · rw [clear_mk, List.filterMap_append, hcells.1, hcells.2]
    exact ⟨rfl, rfl⟩
  split
  · exact h.back
  · unfold Line.put
    rw [clear_mk, List.filterMap_append, hcells.1]
    refine ⟨rfl, ?_⟩
    have hdrop : List.Sublist ((after.drop 1).filterMap Cell.key?) (after.filterMap Cell.key?) :=
      (List.drop_sublist 1 after).filterMap _
    rw [hcells.2] at hdrop
    exact List.sublist_nil.mp hdrop

theorem Line.Clear.write {l : Line κ} (h : l.Clear) (text : List Char) : (l.write text).Clear := by
  induction text generalizing l with
  | nil => exact h
  | cons c text ih => exact ih (h.putChar c)

/-- **The rubout.** Backspace, space, backspace clears the cell left of the
cursor and leaves the cursor there. -/
theorem write_rubout (cells after : List (Cell κ)) (cell : Cell κ) :
    (Line.mk (cells ++ [cell]) after).write ['\x08', ' ', '\x08'] =
      ⟨cells, .text ' ' :: after⟩ := by
  -- the cursor steps left, the space overwrites the cell, the cursor steps left again
  have hback : (Line.mk (cells ++ [cell]) after).putChar '\x08' = ⟨cells, cell :: after⟩ := by
    show Line.back _ = _
    simp [Line.back]
  have hspace : (Line.mk cells (cell :: after)).putChar ' ' = ⟨cells ++ [.text ' '], after⟩ := rfl
  have hagain : (Line.mk (cells ++ [.text ' ']) after).putChar '\x08' =
      ⟨cells, .text ' ' :: after⟩ := by
    show Line.back _ = _
    simp [Line.back]
  show (((Line.mk (cells ++ [cell]) after).putChar '\x08').putChar ' ').putChar '\x08' = _
  rw [hback, hspace, hagain]

end Terminal
