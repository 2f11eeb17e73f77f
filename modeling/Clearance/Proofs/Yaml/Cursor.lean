import Clearance.Proofs.Text.Front
import Clearance.Yaml.Written

/-!
# Moving through a text

Where a cursor stands behind a piece of text, and what it takes from the front of one.  Loops that
are given fuel lead from state to state.
-/

namespace Clearance.Yaml

open Text (Stops)
open Written (spaces newLine)

/-! ## Loops -/

/--
A loop leads from one state to another: both give the same result, and fuel above the size of the
one state leaves fuel above the size of the other.
-/
def Leads {σ β : Type} (loop : Nat -> σ -> β) (size : σ -> Nat) (s s' : σ) : Prop :=
  ∀ fuel, size s < fuel -> ∃ fuel', size s' < fuel' ∧ loop fuel s = loop fuel' s'

namespace Leads

variable {σ β : Type} {loop : Nat -> σ -> β} {size : σ -> Nat} {s s' s'' : σ}

theorem refl (s : σ) : Leads loop size s s :=
  fun fuel hfuel => ⟨fuel, hfuel, rfl⟩

theorem trans (h : Leads loop size s s') (h' : Leads loop size s' s'') :
    Leads loop size s s'' := by
  intro fuel hfuel
  obtain ⟨fuel', hfuel', heq⟩ := h fuel hfuel
  obtain ⟨fuel'', hfuel'', heq'⟩ := h' fuel' hfuel'
  exact ⟨fuel'', hfuel'', heq.trans heq'⟩

theorem step (hlt : size s' < size s) (h : ∀ fuel, loop (fuel + 1) s = loop fuel s') :
    Leads loop size s s' := by
  intro fuel hfuel
  obtain ⟨fuel, rfl⟩ := Nat.exists_eq_succ_of_ne_zero (Nat.ne_of_gt (Nat.zero_lt_of_lt hfuel))
  exact ⟨fuel, by omega, h fuel⟩

end Leads

@[simp] theorem Written.length_spaces (k : Nat) : (spaces k).length = k :=
  List.length_replicate

@[simp] theorem Written.length_newLine (k : Nat) : (newLine k).length = k + 1 := by
  rw [newLine, List.length_cons, Written.length_spaces]

/-- A character that takes a column of its line. -/
def isInline (ch : Char) : Bool :=
  !isBreak ch && !isByteOrderMark ch

namespace Cursor

variable {c : Cursor} {ch : Char} {front rest : List Char} {p : Char -> Bool}

/-! ## Places -/

theorem advance_add (m n : Nat) (c : Cursor) : c.advance (m + n) = (c.advance m).advance n := by
  induction m generalizing c with
  | zero => rw [Nat.zero_add, advance]
  | succ m ih => rw [Nat.succ_add, advance, ih, advance]

theorem rest_advance_append (h : c.rest = front ++ rest) :
    (c.advance front.length).rest = rest := by
  rw [rest_advance, h, List.drop_left]

theorem length_rest_advance (n : Nat) (c : Cursor) :
    (c.advance n).rest.length = c.rest.length - n := by
  rw [rest_advance, List.length_drop]

theorem rest_advance_spaces {k : Nat} (h : c.rest = spaces k ++ rest) :
    (c.advance k).rest = rest := by
  rw [rest_advance, h, List.drop_left' (Written.length_spaces k)]

theorem rest_next_cons (h : c.rest = ch :: rest) : c.next.rest = rest := by
  rw [rest_next, h, List.tail_cons]

theorem next_lineFeed (h : c.rest = '\n' :: rest) :
    c.next = { rest, index := c.index + 1, line := c.line + 1, column := 0 } := by
  simp [next, h, isBreak]

theorem advance_inline (hfront : ∀ ch ∈ front, isInline ch = true) (h : c.rest = front ++ rest) :
    c.advance front.length =
      { rest, index := c.index + front.length, line := c.line
        column := c.column + front.length } := by
  induction front generalizing c with
  | nil => rw [List.nil_append] at h; subst h; rfl
  | cons ch more ih =>
      obtain ⟨hch, hmore⟩ := List.forall_mem_cons.1 hfront
      simp only [isInline, Bool.and_eq_true, Bool.not_eq_true'] at hch
      have hnext : c.next =
          { rest := more ++ rest, index := c.index + 1, line := c.line, column := c.column + 1 } := by
        simp [next, h, hch.1, hch.2]
      rw [List.length_cons, advance, hnext, ih hmore rfl]
      simp only [Nat.add_assoc, Nat.add_comm 1]

theorem isInline_spaces {k : Nat} : ∀ ch ∈ spaces k, isInline ch = true := by
  intro ch h
  obtain ⟨-, rfl⟩ := List.mem_replicate.1 h
  rfl

theorem advance_newLine {k : Nat} (h : c.rest = newLine k ++ rest) :
    c.advance (k + 1) = { rest, index := c.index + (k + 1), line := c.line + 1, column := k } := by
  have hnext := next_lineFeed (show c.rest = '\n' :: (spaces k ++ rest) from h)
  rw [Nat.add_comm k 1, advance_add, advance, advance, hnext]
  have hspaces := @advance_inline
    { rest := spaces k ++ rest, index := c.index + 1, line := c.line + 1, column := 0 } (spaces k)
    rest isInline_spaces rfl
  rw [Written.length_spaces] at hspaces
  rw [hspaces, Nat.zero_add, Nat.add_assoc]

theorem line_le_next (c : Cursor) : c.line ≤ c.next.line := by
  unfold next
  split
  · exact Nat.le_refl _
  · split
    · exact Nat.le_succ _
    · exact Nat.le_refl _

theorem line_le_advance (n : Nat) (c : Cursor) : c.line ≤ (c.advance n).line := by
  induction n generalizing c with
  | zero => exact Nat.le_refl _
  | succ n ih => exact Nat.le_trans (line_le_next c) (ih _)

/-! ## Taking from the front -/

theorem takeWhile_append (hfront : ∀ ch ∈ front, p ch = true) (hrest : Stops p rest)
    (h : c.rest = front ++ rest) : c.takeWhile p = (front, c.advance front.length) := by
  unfold takeWhile
  rw [h, Text.takeWhile_append_stop hfront hrest]

theorem takeWhile_of_stops (h : Stops p c.rest) : c.takeWhile p = ([], c) :=
  @takeWhile_append c [] c.rest p (by simp) h rfl

theorem skipWhile_append (hfront : ∀ ch ∈ front, p ch = true) (hrest : Stops p rest)
    (h : c.rest = front ++ rest) : c.skipWhile p = c.advance front.length := by
  unfold skipWhile
  rw [takeWhile_append hfront hrest h]

theorem skipWhile_of_stops (h : Stops p c.rest) : c.skipWhile p = c := by
  unfold skipWhile
  rw [takeWhile_of_stops h]

theorem takeBreak?_lineFeed (h : c.rest = '\n' :: rest) : c.takeBreak? = some ('\n', c.next) := by
  simp [takeBreak?, h, isBreak]

theorem takeBreak?_of_stops (h : Stops isBreak c.rest) : c.takeBreak? = none := by
  unfold takeBreak?
  split
  · rename_i heq
    rw [heq] at h
    cases h _ rfl
  · rename_i ch rest _ heq
    rw [heq, Text.stops_cons] at h
    have hseparator : (ch == '\u2028' || ch == '\u2029') = false := by
      simp only [isBreak, Bool.or_eq_false_iff] at h ⊢
      exact ⟨h.1.2, h.2⟩
    rw [hseparator, h]
    rfl
  · rfl

/-- A document mark consists of hyphens or of points. -/
theorem seesDocumentMark_of_stops (h : Stops (fun ch => ch == '-' || ch == '.') c.rest) :
    c.seesDocumentMark = false := by
  cases hc : c.rest with
  | nil => simp [seesDocumentMark, seesMark, hc]
  | cons ch rest =>
      rw [hc, Text.stops_cons] at h
      simp only [Bool.or_eq_false_iff, beq_eq_false_iff_ne] at h
      simp [seesDocumentMark, seesMark, hc, h.1, h.2]

theorem seesChar_eq_false (h : Stops (· == ch) c.rest) : c.seesChar ch = false := by
  unfold seesChar head?
  cases hc : c.rest with
  | nil => rfl
  | cons d rest =>
      rw [hc, Text.stops_cons] at h
      simpa using h

theorem sees_eq_false (h : Stops p c.rest) : c.sees p = false := by
  unfold sees head?
  cases hc : c.rest with
  | nil => rfl
  | cons d rest =>
      rw [hc, Text.stops_cons] at h
      simpa using h

end Cursor

end Clearance.Yaml
