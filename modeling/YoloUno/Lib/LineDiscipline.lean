import Mathlib.Data.List.Induction
import Mathlib.Logic.Relation

/-!
# Line discipline: erase keys and terminators

A stream of keys is cut into lines by *terminators* (`isEnd`), and within a
line an *erase key* (`isErase`) takes back the nearest key that is still
there. Two accounts of this are given and shown to agree:

* the **specification** — `Cancels l r`: delete every erase key of `l`
  together with the nearest key before it that is not itself deleted, an
  erase key with nothing left before it being dropped, until no erase key is
  left. `reduce` computes the result, reading the line from its end;
* the **machine** — `feed`, which sees one key at a time, keeps the current
  line in a buffer (`edit`), and at a terminator submits the buffer unless it
  is empty.

Main results:

* `cancels_iff` — `reduce l` is the one and only result of cancelling in `l`.
* `foldl_edit_nil` — editing from the empty buffer is `reduce`.
* `feed_stream` — after any stream the machine has submitted exactly the
  nonempty reductions of the terminated pieces, in order, and its buffer is
  the reduction of the piece still open.
-/

namespace LineDiscipline

variable {α : Type*} (isErase isEnd : α → Bool)

/-! ## Cancelling in one line -/

/-- One deletion: an erase key with the key before it, or an erase key at the
start of the line. -/
inductive CancelStep : List α → List α → Prop
  | pair (u v : List α) {c e : α} (hc : isErase c = false) (he : isErase e = true) :
      CancelStep (u ++ c :: e :: v) (u ++ v)
  | drop (v : List α) {e : α} (he : isErase e = true) : CancelStep (e :: v) v

/-- `r` is what is left of `l` when every erase key has been deleted. -/
def Cancels (l r : List α) : Prop :=
  Relation.ReflTransGen (CancelStep isErase) l r ∧ ∀ c ∈ r, isErase c = false

/-- Read a line from its end: the keys kept, and the number of erase keys
that have not met their key yet. -/
def keepFromEnd (l : List α) : List α × Nat :=
  l.foldr (fun c acc =>
    if isErase c then (acc.1, acc.2 + 1)
    else if acc.2 = 0 then (c :: acc.1, 0)
    else (acc.1, acc.2 - 1)) ([], 0)

/-- What a line reads once its erase keys have taken effect. -/
def reduce (l : List α) : List α := (keepFromEnd isErase l).1

/-- One key against the buffer: an erase key deletes the last one. -/
def edit (buf : List α) (c : α) : List α :=
  if isErase c then buf.dropLast else buf ++ [c]

variable {isErase}

theorem edit_erase {c : α} (hc : isErase c = true) (buf : List α) :
    edit isErase buf c = buf.dropLast := if_pos hc

theorem edit_keep {c : α} (hc : isErase c = false) (buf : List α) :
    edit isErase buf c = buf ++ [c] := by
  rw [edit, hc]
  rfl

/-- A deletion inside a line does not change what editing makes of it. -/
theorem foldl_edit_of_step {l r : List α} (h : CancelStep isErase l r) :
    l.foldl (edit isErase) [] = r.foldl (edit isErase) [] := by
  cases h with
  | pair u v hc he =>
    rw [List.foldl_append, List.foldl_append, List.foldl_cons, List.foldl_cons,
      edit_keep hc, edit_erase he, List.dropLast_concat]
  | drop v he =>
    rw [List.foldl_cons, edit_erase he, List.dropLast_nil]

/-- Keys that are no erase keys are appended as they come. -/
theorem foldl_edit_of_noErase {l : List α} (h : ∀ c ∈ l, isErase c = false) (buf : List α) :
    l.foldl (edit isErase) buf = buf ++ l := by
  induction l generalizing buf with
  | nil => simp
  | cons c l ih =>
    rw [List.foldl_cons, edit_keep (h c (List.mem_cons_self ..)),
      ih fun x hx => h x (List.mem_cons_of_mem _ hx)]
    simp

/-- Keys typed after a deletion do not interfere with it. -/
theorem CancelStep.append {l r : List α} (h : CancelStep isErase l r) (w : List α) :
    CancelStep isErase (l ++ w) (r ++ w) := by
  cases h with
  | pair u v hc he => simpa using CancelStep.pair u (v ++ w) hc he
  | drop _ he => exact CancelStep.drop (r ++ w) he

/-- Editing is a way to cancel: the buffer it leaves is reached by deletions
and holds no erase key. -/
theorem cancels_foldl_edit (l : List α) : Cancels isErase l (l.foldl (edit isErase) []) := by
  -- the deletions made so far can be made with one more key behind them
  induction l using List.reverseRecOn with
  | nil => exact ⟨Relation.ReflTransGen.refl, by simp⟩
  | append_singleton l c ih =>
    obtain ⟨hsteps, hkept⟩ := ih
    set buf := l.foldl (edit isErase) [] with hbuf
    have hlift : Relation.ReflTransGen (CancelStep isErase) (l ++ [c]) (buf ++ [c]) :=
      hsteps.lift (· ++ [c]) fun _ _ h => h.append [c]
    rw [List.foldl_append, ← hbuf, List.foldl_cons, List.foldl_nil]
    cases hc : isErase c with
    | false =>
      rw [edit_keep hc]
      refine ⟨hlift, fun x hx => ?_⟩
      rcases List.mem_append.mp hx with hx | hx
      · exact hkept x hx
      · rw [List.mem_singleton.mp hx]
        exact hc
    | true =>
      rw [edit_erase hc]
      refine ⟨hlift.tail ?_, fun x hx => hkept x (List.dropLast_subset _ hx)⟩
      rcases List.eq_nil_or_concat buf with hnil | ⟨u, k, hk⟩
      · rw [hnil]
        exact CancelStep.drop [] hc
      · rw [List.concat_eq_append] at hk
        have hkk : isErase k = false := hkept k (by rw [hk]; simp)
        rw [hk, List.dropLast_concat]
        simpa using CancelStep.pair u [] hkk hc

/-- Cancelling has one result, whatever the order of the deletions. -/
theorem Cancels.eq_foldl_edit {l r : List α} (h : Cancels isErase l r) :
    r = l.foldl (edit isErase) [] := by
  obtain ⟨hsteps, hkept⟩ := h
  have heq : l.foldl (edit isErase) [] = r.foldl (edit isErase) [] := by
    clear hkept
    induction hsteps with
    | refl => rfl
    | tail _ hstep ih => rw [ih, foldl_edit_of_step hstep]
  rw [heq, foldl_edit_of_noErase hkept, List.nil_append]

theorem keepFromEnd_cons (c : α) (l : List α) :
    keepFromEnd isErase (c :: l) =
      if isErase c then ((keepFromEnd isErase l).1, (keepFromEnd isErase l).2 + 1)
      else if (keepFromEnd isErase l).2 = 0 then (c :: (keepFromEnd isErase l).1, 0)
      else ((keepFromEnd isErase l).1, (keepFromEnd isErase l).2 - 1) := rfl

/-- Editing a line into a buffer: the erase keys that found no key in the
line take theirs from the end of the buffer. -/
theorem foldl_edit (l : List α) (buf : List α) :
    l.foldl (edit isErase) buf =
      buf.take (buf.length - (keepFromEnd isErase l).2) ++ reduce isErase l := by
  induction l generalizing buf with
  | nil => simp [keepFromEnd, reduce]
  | cons c l ih =>
    rw [List.foldl_cons, ih, reduce, reduce, keepFromEnd_cons]
    cases hc : isErase c with
    | true =>
      -- one more erase key reaches into the buffer
      rw [edit_erase hc, List.dropLast_eq_take, List.take_take, List.length_take]
      simp only [if_true]
      congr 2
      omega
    | false =>
      rw [edit_keep hc]
      simp only [Bool.false_eq_true, if_false]
      split
      · next hp => simp [hp, List.take_of_length_le]
      · next hp =>
        have hle : buf.length + 1 - (keepFromEnd isErase l).2 ≤ buf.length := by omega
        rw [List.length_append, List.length_singleton, List.take_append_of_le_length hle]
        congr 2
        omega

/-- **Editing from the empty buffer is `reduce`.** -/
theorem foldl_edit_nil (l : List α) : l.foldl (edit isErase) [] = reduce isErase l := by
  rw [foldl_edit]
  simp

/-- **`reduce` is what cancelling means**: the one and only result of
deleting every erase key with its key. -/
theorem cancels_iff {l r : List α} : Cancels isErase l r ↔ r = reduce isErase l := by
  constructor
  · intro h
    rw [h.eq_foldl_edit, foldl_edit_nil]
  · rintro rfl
    rw [← foldl_edit_nil]
    exact cancels_foldl_edit l

example : reduce (· == 8) [8, 97, 98, 8, 8, 8, 99] = [99] := by decide

@[simp] theorem reduce_nil : reduce isErase ([] : List α) = [] := rfl

theorem reduce_concat (l : List α) (c : α) :
    reduce isErase (l ++ [c]) = edit isErase (reduce isErase l) c := by
  rw [← foldl_edit_nil, ← foldl_edit_nil, List.foldl_append]
  rfl

/-! ## The stream of lines -/

variable (isErase)

/-- The lines a stream submits: its terminated pieces, reduced, without the
ones that come out empty. -/
def submitted (stream : List α) : List (List α) :=
  ((stream.splitOnP isEnd).dropLast.map (reduce isErase)).filter (· ≠ [])

/-- What is left of the piece that is still open. -/
def pending (stream : List α) : List α :=
  reduce isErase ((stream.splitOnP isEnd).getLastD [])

/-- One key of the machine: the lines submitted so far, and the buffer. -/
def feed (acc : List (List α) × List α) (c : α) : List (List α) × List α :=
  if isEnd c then
    if acc.2 = [] then acc else (acc.1 ++ [acc.2], [])
  else (acc.1, edit isErase acc.2 c)

variable {isErase isEnd}

/-- A terminator closes the open piece and opens an empty one. -/
theorem splitOnP_concat_end {c : α} (hc : isEnd c = true) (stream : List α) :
    (stream ++ [c]).splitOnP isEnd = stream.splitOnP isEnd ++ [[]] := by
  rw [List.splitOnP_append_cons stream [] hc, List.splitOnP_nil]

/-- Any other key goes to the open piece. -/
theorem splitOnP_concat_key {c : α} (hc : isEnd c = false) (stream : List α) :
    (stream ++ [c]).splitOnP isEnd =
      (stream.splitOnP isEnd).dropLast ++ [(stream.splitOnP isEnd).getLastD [] ++ [c]] := by
  induction stream with
  | nil => simp [List.splitOnP_cons_eq_if_modifyHead, hc]
  | cons x xs ih =>
    rw [List.cons_append, List.splitOnP_cons_eq_if_modifyHead, ih,
      List.splitOnP_cons_eq_if_modifyHead]
    -- the key lands in the last piece, which is the first when it is the only one
    obtain ⟨p, ps, hps⟩ := List.exists_cons_of_ne_nil (List.splitOnP_ne_nil isEnd xs)
    rw [hps]
    cases ps <;> split <;> simp [List.getLastD_eq_getLast?]

theorem submitted_concat_end {c : α} (hc : isEnd c = true) (stream : List α) :
    submitted isErase isEnd (stream ++ [c]) =
      if pending isErase isEnd stream = [] then submitted isErase isEnd stream
      else submitted isErase isEnd stream ++ [pending isErase isEnd stream] := by
  have hne := List.splitOnP_ne_nil isEnd stream
  have hlast : stream.splitOnP isEnd =
      (stream.splitOnP isEnd).dropLast ++ [(stream.splitOnP isEnd).getLastD []] := by
    rw [List.getLastD_eq_getLast?, List.getLast?_eq_some_getLast hne, Option.getD_some,
      List.dropLast_concat_getLast hne]
  rw [submitted, splitOnP_concat_end hc, List.dropLast_concat]
  conv_lhs => rw [hlast]
  rw [List.map_append, List.filter_append, submitted, pending]
  split
  · next h => simp [h, -List.getLastD_eq_getLast?]
  · next h => simp [h, -List.getLastD_eq_getLast?]

theorem pending_concat_end {c : α} (hc : isEnd c = true) (stream : List α) :
    pending isErase isEnd (stream ++ [c]) = [] := by
  rw [pending, splitOnP_concat_end hc]
  simp [List.getLastD_eq_getLast?]

theorem submitted_concat_key {c : α} (hc : isEnd c = false) (stream : List α) :
    submitted isErase isEnd (stream ++ [c]) = submitted isErase isEnd stream := by
  rw [submitted, splitOnP_concat_key hc, List.dropLast_concat, submitted]

theorem pending_concat_key {c : α} (hc : isEnd c = false) (stream : List α) :
    pending isErase isEnd (stream ++ [c]) = edit isErase (pending isErase isEnd stream) c := by
  rw [pending, splitOnP_concat_key hc, pending, ← reduce_concat]
  simp [List.getLastD_eq_getLast?]

/-- **The machine refines the specification**: over any stream it submits the
nonempty reductions of the terminated pieces, in order, and its buffer is the
reduction of the piece still open. -/
theorem feed_stream (stream : List α) :
    stream.foldl (feed isErase isEnd) ([], []) =
      (submitted isErase isEnd stream, pending isErase isEnd stream) := by
  induction stream using List.reverseRecOn with
  | nil => rfl
  | append_singleton stream c ih =>
    rw [List.foldl_append, ih, List.foldl_cons, List.foldl_nil, feed]
    cases hc : isEnd c with
    | true =>
      rw [submitted_concat_end hc, pending_concat_end hc]
      simp only [if_true]
      split
      · next h => rw [h]
      · rfl
    | false => rw [submitted_concat_key hc, pending_concat_key hc]; rfl

/-- Keys that are no terminators only edit the buffer. -/
theorem foldl_feed_of_noEnd {keys : List α} (h : ∀ c ∈ keys, isEnd c = false)
    (lines : List (List α)) (buf : List α) :
    keys.foldl (feed isErase isEnd) (lines, buf) = (lines, keys.foldl (edit isErase) buf) := by
  induction keys generalizing buf with
  | nil => rfl
  | cons c keys ih =>
    have hc : isEnd c = false := h c (List.mem_cons_self ..)
    have hfeed : feed isErase isEnd (lines, buf) c = (lines, edit isErase buf c) := by
      rw [feed, if_neg (by simp [hc])]
    rw [List.foldl_cons, List.foldl_cons, hfeed]
    exact ih (fun x hx => h x (List.mem_cons_of_mem _ hx)) _

/-- What was submitted before a stream stays in front, and has no part in it. -/
theorem foldl_feed_lines (stream : List α) (lines : List (List α)) (buf : List α) :
    stream.foldl (feed isErase isEnd) (lines, buf) =
      (lines ++ (stream.foldl (feed isErase isEnd) ([], buf)).1,
        (stream.foldl (feed isErase isEnd) ([], buf)).2) := by
  induction stream using List.reverseRecOn with
  | nil => simp
  | append_singleton stream c ih =>
    simp only [List.foldl_append, List.foldl_cons, List.foldl_nil]
    rw [ih]
    unfold feed
    dsimp only
    split
    · split
      · rfl
      · rw [List.append_assoc]
    · rfl

/-- A stream that goes on takes nothing back. -/
theorem submitted_mono {stream stream' : List α} (h : stream <+: stream') :
    submitted isErase isEnd stream <+: submitted isErase isEnd stream' := by
  obtain ⟨rest, rfl⟩ := h
  induction rest using List.reverseRecOn with
  | nil => simp
  | append_singleton rest c ih =>
    rw [← List.append_assoc]
    cases hc : isEnd c with
    | true =>
      rw [submitted_concat_end hc]
      split
      · exact ih
      · exact ih.trans (List.prefix_append _ _)
    | false =>
      rw [submitted_concat_key hc]
      exact ih

end LineDiscipline
