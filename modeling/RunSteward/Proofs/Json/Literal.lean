import Mathlib.Tactic.SplitIfs
import RunSteward.Json.Writer

/-!
# String literals

A string literal is made of the visible characters of ASCII and the space, whatever the text in it is
(`stringLiteral_visible`): a character outside this range is written as an escape, and the escapes stay inside it.
-/

namespace RunSteward

theorem Text.hexDigit_visible (i : Fin 16) : 0x20 ≤ (hexDigit i.val).toNat ∧ (hexDigit i.val).toNat ≤ 0x7e := by
  revert i
  decide

theorem Text.exists_of_mem_hexDigits {k n : Nat} {c : Char} (h : c ∈ hexDigits k n) :
    ∃ i : Fin 16, c = hexDigit i.val := by
  induction k generalizing n with
  | zero => cases h
  | succ k ih =>
    rcases List.mem_append.mp h with hfront | hlast
    · exact ih hfront
    · exact ⟨⟨n % 16, Nat.mod_lt n (by decide)⟩, List.mem_singleton.mp hlast⟩

theorem Text.hexDigits_visible {k n : Nat} {c : Char} (h : c ∈ hexDigits k n) : 0x20 ≤ c.toNat ∧ c.toNat ≤ 0x7e := by
  obtain ⟨i, rfl⟩ := exists_of_mem_hexDigits h
  exact hexDigit_visible i

namespace Json

theorem unitEscape_visible {u : Nat} {c : Char} (h : c ∈ unitEscape u) : 0x20 ≤ c.toNat ∧ c.toNat ≤ 0x7e := by
  simp only [unitEscape, List.mem_cons] at h
  rcases h with rfl | rfl | hdigit
  · decide
  · decide
  · exact Text.hexDigits_visible hdigit

theorem escapeChar_visible {c d : Char} (h : d ∈ escapeChar c) : 0x20 ≤ d.toNat ∧ d.toNat ≤ 0x7e := by
  have hpair : ∀ e, 0x20 ≤ e.toNat ∧ e.toNat ≤ 0x7e → d ∈ ['\\', e] → 0x20 ≤ d.toNat ∧ d.toNat ≤ 0x7e := by
    intro e he hd
    simp only [List.mem_cons, List.not_mem_nil, or_false] at hd
    rcases hd with rfl | rfl
    · decide
    · exact he
  unfold escapeChar at h
  split at h
  iterate 7 exact hpair _ (by decide) h
  -- the characters that have no short escape
  dsimp only at h
  split_ifs at h with hvisible
  · obtain rfl := List.mem_singleton.mp h
    exact hvisible
  · exact unitEscape_visible h
  · rcases List.mem_append.mp h with hhigh | hlow
    · exact unitEscape_visible hhigh
    · exact unitEscape_visible hlow

/-- **A string literal is visible ASCII**, whatever the text is that it denotes. -/
theorem stringLiteral_visible (s : String) {c : Char} (h : c ∈ (stringLiteral s).toList) :
    0x20 ≤ c.toNat ∧ c.toNat ≤ 0x7e := by
  rw [stringLiteral, String.toList_ofList] at h
  rcases List.mem_cons.mp h with rfl | hrest
  · decide
  rcases List.mem_append.mp hrest with hinner | hquote
  · obtain ⟨_, -, hescape⟩ := List.mem_flatMap.mp hinner
    exact escapeChar_visible hescape
  · obtain rfl := List.mem_singleton.mp hquote
    decide

end Json

end RunSteward
