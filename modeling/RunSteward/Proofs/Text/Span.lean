import Mathlib.Data.List.TakeWhile

/-!
# Spans

A row of characters of one kind ends where the text does not go on with another one of them. There it is cut off as a
whole (`takeWhile_append_endsAt`), and so a text falls into such a row and the rest in one way only
(`append_inj_of_endsAt`).
-/

namespace RunSteward.Text

variable {q : Char → Bool} {row row' rest rest' : List Char}

/-- Tells that a text does not begin with a character of a kind. -/
def EndsAt (q : Char → Bool) (rest : List Char) : Prop :=
  ∀ c ∈ rest.head?, q c = false

theorem endsAt_nil (q : Char → Bool) : EndsAt q [] := by
  intro c hc
  cases hc

theorem EndsAt.cons {c : Char} (hc : q c = false) (s : List Char) : EndsAt q (c :: s) := by
  intro d hd
  obtain rfl : c = d := by simpa using hd
  exact hc

theorem takeWhile_append_endsAt (hrow : ∀ c ∈ row, q c = true) (hrest : EndsAt q rest) :
    (row ++ rest).takeWhile q = row := by
  rw [List.takeWhile_append_of_pos hrow]
  cases rest with
  | nil => simp
  | cons c rest => simp [hrest c rfl]

theorem dropWhile_append_endsAt (hrow : ∀ c ∈ row, q c = true) (hrest : EndsAt q rest) :
    (row ++ rest).dropWhile q = rest := by
  rw [List.dropWhile_append_of_pos hrow]
  cases rest with
  | nil => rfl
  | cons c rest => simp [hrest c rfl]

theorem append_inj_of_endsAt (hrow : ∀ c ∈ row, q c = true) (hrow' : ∀ c ∈ row', q c = true) (hrest : EndsAt q rest)
    (hrest' : EndsAt q rest') (h : row ++ rest = row' ++ rest') : row = row' ∧ rest = rest' := by
  have hfront := takeWhile_append_endsAt hrow hrest
  have hback := dropWhile_append_endsAt hrow hrest
  rw [h] at hfront hback
  exact ⟨hfront.symm.trans (takeWhile_append_endsAt hrow' hrest'), hback.symm.trans (dropWhile_append_endsAt hrow' hrest')⟩

end RunSteward.Text
