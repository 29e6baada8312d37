import Mathlib.Data.Prod.Lex
import Mathlib.Data.String.Basic
import RunSteward.Version.Basic

/-!
# The order of versions

The first part in which two versions differ decides: their numbers, one after another, then whether they are
releases, and then the names of their prereleases (`lt_iff_precedes`). This order is the one of a row of parts
(`lt_iff_rank`), and so it is total and tells all versions apart.
-/

namespace RunSteward.Version

variable {a b : Version}

/-- The order of versions in words. Of equal numbers a prerelease comes before the release. -/
inductive Precedes (a b : Version) : Prop where
  | major (h : a.major < b.major)
  | minor (hmajor : a.major = b.major) (h : a.minor < b.minor)
  | patch (hmajor : a.major = b.major) (hminor : a.minor = b.minor) (h : a.patch < b.patch)
  | release (hmajor : a.major = b.major) (hminor : a.minor = b.minor) (hpatch : a.patch = b.patch)
      (h : a.prerelease ≠ "") (h' : b.prerelease = "")
  | prerelease (hmajor : a.major = b.major) (hminor : a.minor = b.minor) (hpatch : a.patch = b.patch)
      (h : a.prerelease ≠ "") (hlt : a.prerelease < b.prerelease)

/-- Where a version stands among the others. -/
def rank (v : Version) : ℤ ×ₗ ℤ ×ₗ ℤ ×ₗ Bool ×ₗ String :=
  toLex (v.major, toLex (v.minor, toLex (v.patch, toLex (v.isRelease, v.prerelease))))

theorem rank_injective (h : a.rank = b.rank) : a = b := by
  obtain ⟨major, minor, patch, prerelease⟩ := a
  obtain ⟨major', minor', patch', prerelease'⟩ := b
  simp only [rank, toLex_inj, Prod.mk.injEq] at h
  obtain ⟨rfl, rfl, rfl, -, rfl⟩ := h
  rfl

theorem lt_iff_rank : a.lt b = true ↔ a.rank < b.rank := by
  simp only [rank, Prod.Lex.toLex_lt_toLex, lt]
  -- part by part: equal ones leave the decision to the next one
  by_cases hmajor : a.major = b.major
  · by_cases hminor : a.minor = b.minor
    · by_cases hpatch : a.patch = b.patch
      · by_cases hrelease : a.isRelease = b.isRelease
        · simp [hmajor, hminor, hpatch, hrelease]
        · simp [hmajor, hminor, hpatch, hrelease, Bool.lt_iff]
          grind
      · simp [hmajor, hminor, hpatch]
    · simp [hmajor, hminor]
  · simp [hmajor]

theorem isRelease_iff {v : Version} : v.isRelease = true ↔ v.prerelease = "" := by
  simp [isRelease]

theorem lt_iff_precedes : a.lt b = true ↔ a.Precedes b := by
  rw [lt_iff_rank]
  simp only [rank, Prod.Lex.toLex_lt_toLex, Bool.lt_iff, Bool.eq_false_iff, ne_eq, isRelease_iff]
  constructor
  · rintro (h | ⟨hmajor, h | ⟨hminor, h | ⟨hpatch, ⟨h, h'⟩ | ⟨hsame, hlt⟩⟩⟩⟩)
    · exact .major h
    · exact .minor hmajor h
    · exact .patch hmajor hminor h
    · exact .release hmajor hminor hpatch h h'
    · refine .prerelease hmajor hminor hpatch (fun hnone => ?_) hlt
      rw [Bool.eq_iff_iff, isRelease_iff, isRelease_iff] at hsame
      rw [hsame.mp hnone, hnone] at hlt
      exact lt_irrefl _ hlt
  · rintro (h | ⟨hmajor, h⟩ | ⟨hmajor, hminor, h⟩ | ⟨hmajor, hminor, hpatch, h, h'⟩ |
      ⟨hmajor, hminor, hpatch, h, hlt⟩)
    · exact .inl h
    · exact .inr ⟨hmajor, .inl h⟩
    · exact .inr ⟨hmajor, .inr ⟨hminor, .inl h⟩⟩
    · exact .inr ⟨hmajor, .inr ⟨hminor, .inr ⟨hpatch, .inl ⟨h, h'⟩⟩⟩⟩
    · refine .inr ⟨hmajor, .inr ⟨hminor, .inr ⟨hpatch, .inr ⟨?_, hlt⟩⟩⟩⟩
      have h' : b.prerelease ≠ "" := by
        intro hnone
        rw [hnone, String.lt_iff_toList_lt] at hlt
        exact List.not_lt_nil _ hlt
      rw [Bool.eq_iff_iff, isRelease_iff, isRelease_iff]
      exact iff_of_false h h'

end RunSteward.Version
