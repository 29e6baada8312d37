import Mathlib.Data.List.Perm.Basic

/-!
# Sorted lists

Lists with the same members are sorted alike if the order tells their members apart. A search in a sorted list finds
the least of the members that are searched for (`le_of_find?_mergeSort`); what is not searched for plays no part in
it, wherever it stands (`find?_mergeSort_filter`).
-/

namespace RunSteward

variable {α : Type} {le : α → α → Bool} (htrans : ∀ a b c, le a b = true → le b c = true → le a c = true)
  (htotal : ∀ a b, (le a b || le b a) = true)
include htrans htotal

theorem mergeSort_eq_of_perm {xs ys : List α} (hperm : xs.Perm ys)
    (hapart : ∀ a ∈ xs, ∀ b ∈ xs, le a b = true → le b a = true → a = b) : xs.mergeSort le = ys.mergeSort le := by
  refine List.Perm.eq_of_pairwise (fun a b ha hb => ?_) (List.pairwise_mergeSort htrans htotal xs)
    (List.pairwise_mergeSort htrans htotal ys) ?_
  · exact hapart a (List.mem_mergeSort.mp ha) b (hperm.mem_iff.mpr (List.mem_mergeSort.mp hb))
  · exact (List.mergeSort_perm xs le).trans (hperm.trans (List.mergeSort_perm ys le).symm)

theorem le_of_find?_mergeSort {p : α → Bool} {xs : List α} {a b : α} (hfound : (xs.mergeSort le).find? p = some a)
    (hb : b ∈ xs) (hpb : p b = true) : le a b = true := by
  have hsorted := List.pairwise_mergeSort htrans htotal xs
  obtain ⟨-, before, after, hsplit, hbefore⟩ := List.find?_eq_some_iff_append.mp hfound
  have hb : b ∈ xs.mergeSort le := List.mem_mergeSort.mpr hb
  rw [hsplit] at hb hsorted
  rcases List.mem_append.mp hb with hb | hb
  · have hvain := hbefore b hb
    rw [hpb] at hvain
    cases hvain
  · rcases List.mem_cons.mp hb with rfl | hb
    · simpa using htotal b b
    · exact (List.pairwise_cons.mp (List.pairwise_append.mp hsorted).2.1).1 b hb

/-- With one member more in front, a search finds that member, unless it is not searched for or something else comes
strictly before it. -/
theorem find?_mergeSort_cons (p : α → Bool) (a : α) (xs : List α) :
    ((a :: xs).mergeSort le).find? p =
      if p a = true then
        some (match (xs.mergeSort le).find? p with | none => a | some b => if le a b = true then a else b)
      else (xs.mergeSort le).find? p := by
  obtain ⟨before, after, hcons, hxs, hbefore⟩ := List.mergeSort_cons htrans htotal a xs
  have hsorted := List.pairwise_mergeSort htrans htotal (a :: xs)
  rw [hcons] at hsorted
  have hafter := (List.pairwise_cons.mp (List.pairwise_append.mp hsorted).2.1).1
  rw [hcons, hxs, List.find?_append, List.find?_append]
  by_cases hpa : p a = true
  · rw [if_pos hpa, List.find?_cons_of_pos hpa]
    rcases hfound : before.find? p with _ | b
    · rcases hrest : after.find? p with _ | c
      · rfl
      · simp [hafter c (List.mem_of_find?_eq_some hrest)]
    · have hstrict := hbefore b (List.mem_of_find?_eq_some hfound)
      simp only [Bool.not_eq_true'] at hstrict
      simp [hstrict]
  · rw [if_neg hpa, List.find?_cons_of_neg hpa]

/-- What is not searched for does not matter to what is found. -/
theorem find?_mergeSort_filter (p : α → Bool) (xs : List α) :
    ((xs.filter p).mergeSort le).find? p = (xs.mergeSort le).find? p := by
  induction xs with
  | nil => rfl
  | cons a xs ih =>
    rw [find?_mergeSort_cons htrans htotal]
    by_cases hpa : p a = true
    · rw [List.filter_cons_of_pos hpa, find?_mergeSort_cons htrans htotal, ih]
    · rw [List.filter_cons_of_neg hpa, if_neg hpa, ih]

end RunSteward
