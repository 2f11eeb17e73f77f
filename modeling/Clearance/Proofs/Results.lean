import Mathlib.Data.List.Forall2

/-!
# Steps that succeed

What is known where a computation that may fail does not, for one step, for two of them, for a step
that is made for each element of a list, and for steps that go through a list one after another.
-/

namespace Clearance

section

variable {ε ε' α β : Type} {x : Except ε α}

theorem exists_of_bind_ok {f : α -> Except ε β} {b : β} (h : (x >>= f) = .ok b) :
    ∃ a, x = .ok a ∧ f a = .ok b := by
  cases x with
  | error e => cases h
  | ok a => exact ⟨a, rfl, h⟩

theorem exists_of_map_ok {f : α -> β} {b : β} (h : x.map f = .ok b) :
    ∃ a, x = .ok a ∧ f a = b := by
  cases x with
  | error e => cases h
  | ok a => exact ⟨a, rfl, Except.ok.inj h⟩

theorem mapError_eq_ok_iff {f : ε -> ε'} {a : α} : x.mapError f = .ok a ↔ x = .ok a := by
  cases x <;> simp [Except.mapError]

theorem of_mapError_ok {f : ε -> ε'} {a : α} (h : x.mapError f = .ok a) : x = .ok a :=
  mapError_eq_ok_iff.1 h

end

/-! ## Lists of steps -/

section

variable {ε α β : Type} {f : α -> Except ε β}

theorem mapM_eq_ok_iff {xs : List α} {ys : List β} :
    xs.mapM f = .ok ys ↔ List.Forall₂ (fun x y => f x = .ok y) xs ys := by
  induction xs generalizing ys with
  | nil =>
      rw [List.mapM_nil, List.forall₂_nil_left_iff]
      exact ⟨fun h => by cases h; rfl, fun h => by rw [h]; rfl⟩
  | cons x xs ih =>
      rw [List.mapM_cons, List.forall₂_cons_left_iff]
      constructor
      · intro h
        obtain ⟨y, hy, h⟩ := exists_of_bind_ok h
        obtain ⟨rest, hrest, h⟩ := exists_of_bind_ok h
        cases h
        exact ⟨y, rest, hy, ih.1 hrest, rfl⟩
      · rintro ⟨y, rest, hy, hrest, rfl⟩
        rw [hy, ih.2 hrest]
        rfl

theorem exists_mapM_eq_ok_iff {xs : List α} :
    (∃ ys, xs.mapM f = .ok ys) ↔ ∀ x ∈ xs, ∃ y, f x = .ok y := by
  simp only [mapM_eq_ok_iff]
  induction xs with
  | nil => exact ⟨fun _ _ hx => (List.not_mem_nil hx).elim, fun _ => ⟨[], .nil⟩⟩
  | cons x xs ih =>
      rw [List.forall_mem_cons, ← ih]
      constructor
      · rintro ⟨ys, hys⟩
        cases hys with
        | cons hy hrest => exact ⟨⟨_, hy⟩, _, hrest⟩
      · rintro ⟨⟨y, hy⟩, ys, hys⟩
        exact ⟨y :: ys, .cons hy hys⟩

theorem exists_of_mapM_error {xs : List α} {e : ε} (h : xs.mapM f = .error e) :
    ∃ x ∈ xs, f x = .error e := by
  induction xs with
  | nil => cases h
  | cons x xs ih =>
      rw [List.mapM_cons] at h
      cases hx : f x with
      | error e' =>
          rw [hx] at h
          cases h
          exact ⟨x, List.mem_cons_self, hx⟩
      | ok y =>
          rw [hx] at h
          cases hxs : xs.mapM f with
          | error e' =>
              rw [hxs] at h
              cases h
              obtain ⟨x', hmem, hx'⟩ := ih hxs
              exact ⟨x', List.mem_cons_of_mem x hmem, hx'⟩
          | ok ys =>
              rw [hxs] at h
              cases h

theorem forall_mem_iff_of_forall₂ {P : α -> Prop} {Q : β -> Prop} {xs : List α} {ys : List β}
    (h : List.Forall₂ (fun x y => Q y ↔ P x) xs ys) : (∀ y ∈ ys, Q y) ↔ ∀ x ∈ xs, P x := by
  induction h with
  | nil => simp
  | cons hxy _ ih => rw [List.forall_mem_cons, List.forall_mem_cons, hxy, ih]

end

/-! ## Folds -/

section

variable {ε α β : Type} {f : β -> α -> Except ε β} {xs : List α}

/-- What every step keeps, a whole fold keeps. -/
theorem foldlM_keeps {P : β -> Prop} (hstep : ∀ b x c, P b -> f b x = .ok c -> P c) {b c : β}
    (hb : P b) (h : xs.foldlM f b = .ok c) : P c := by
  induction xs generalizing b with
  | nil =>
      cases h
      exact hb
  | cons x xs ih =>
      rw [List.foldlM_cons] at h
      obtain ⟨next, hnext, hrest⟩ := exists_of_bind_ok h
      exact ih (hstep b x next hb hnext) hrest

/-- A fold succeeds if every step does, where that hangs on the element alone. -/
theorem exists_foldlM_eq_ok_iff {Q : α -> Prop} (hstep : ∀ b x, (∃ c, f b x = .ok c) ↔ Q x)
    (b : β) : (∃ c, xs.foldlM f b = .ok c) ↔ ∀ x ∈ xs, Q x := by
  induction xs generalizing b with
  | nil => exact ⟨fun _ => List.forall_mem_nil _, fun _ => ⟨b, rfl⟩⟩
  | cons x xs ih =>
      rw [List.foldlM_cons, List.forall_mem_cons]
      constructor
      · rintro ⟨c, h⟩
        obtain ⟨next, hnext, hrest⟩ := exists_of_bind_ok h
        exact ⟨(hstep b x).1 ⟨next, hnext⟩, (ih next).1 ⟨c, hrest⟩⟩
      · rintro ⟨hx, hrest⟩
        obtain ⟨next, hnext⟩ := (hstep b x).2 hx
        obtain ⟨c, hc⟩ := (ih next).2 hrest
        exact ⟨c, by rw [hnext]; exact hc⟩

end

end Clearance
