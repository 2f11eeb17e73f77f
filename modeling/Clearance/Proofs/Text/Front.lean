/-!
# The front of a text

What a reader takes from the front of a text ends where the text goes on with something else.
-/

namespace Clearance.Text

variable {α : Type} {p : α -> Bool} {xs ys : List α}

/-- A text does not go on with a character of some kind. -/
def Stops (p : α -> Bool) (ys : List α) : Prop :=
  ∀ c, ys.head? = some c -> p c = false

theorem stops_nil (p : α -> Bool) : Stops p [] := by
  intro c h
  cases h

@[simp] theorem stops_cons {c : α} : Stops p (c :: ys) ↔ p c = false := by
  constructor
  · intro h
    exact h c rfl
  · rintro h d ⟨⟩
    exact h

theorem takeWhile_append_stop (hxs : ∀ c ∈ xs, p c = true) (hys : Stops p ys) :
    (xs ++ ys).takeWhile p = xs := by
  rw [List.takeWhile_append_of_pos hxs]
  cases ys with
  | nil => simp
  | cons c rest => simp [stops_cons.1 hys]

theorem dropWhile_append_stop (hxs : ∀ c ∈ xs, p c = true) (hys : Stops p ys) :
    (xs ++ ys).dropWhile p = ys := by
  rw [List.dropWhile_append_of_pos hxs]
  cases ys with
  | nil => simp
  | cons c rest => simp [stops_cons.1 hys]

end Clearance.Text
