import RunSteward.Failure
import RunSteward.Text.Digit

/-!
# Versions

A version has three numbers and perhaps the name of a prerelease. Versions are ordered by their numbers; a release
follows every prerelease of the same numbers, and prereleases are ordered as texts. The numbers of a version that was
read from a text are never negative.
-/

namespace RunSteward

/-- A version; a release has no prerelease name. -/
structure Version where
  major : Int
  minor : Int
  patch : Int := 0
  prerelease : String := ""
deriving DecidableEq, Repr

namespace Version

def isRelease (v : Version) : Bool :=
  v.prerelease.isEmpty

/-- The order of versions. -/
def lt (a b : Version) : Bool :=
  if a.major ≠ b.major then a.major < b.major
  else if a.minor ≠ b.minor then a.minor < b.minor
  else if a.patch ≠ b.patch then a.patch < b.patch
  else if a.isRelease ≠ b.isRelease then b.isRelease
  else a.prerelease < b.prerelease

def le (a b : Version) : Bool :=
  lt a b || a == b

/-- The release that a version leads to. -/
def release (v : Version) : Version :=
  ⟨v.major, v.minor, v.patch, ""⟩

/-- Tells whether two versions agree in their first two numbers. -/
def sameLine (a b : Version) : Bool :=
  a.major == b.major && a.minor == b.minor

/-- Tells whether no number of a version has too many digits to be written. -/
def isWritable (v : Version) : Bool :=
  Text.isWritable v.major && Text.isWritable v.minor && Text.isWritable v.patch

/-- The numbers of a version and its prerelease, written out. -/
def wording (v : Version) : String :=
  let numbers := toString v.major ++ "." ++ toString v.minor ++ "." ++ toString v.patch
  if v.isRelease then numbers else numbers ++ "-" ++ v.prerelease

def text (v : Version) : Except Fault String :=
  if v.isWritable then .ok v.wording else .error .numeralTooLong

end Version

end RunSteward
