import RunSteward.Config.DirPath
import RunSteward.Proofs.Text.Line

/-!
# Paths and homes

A path that was read is written in one way, and reading its text gives it back (`DirPath.read_text`). Finding the home
directory goes wrong exactly for a relative path that begins with a tilde and the name of somebody who has no home
(`DirPath.expandHome_eq_error`). Where it goes well, it has nothing left to do a second time, provided that the homes
themselves are anchored (`DirPath.expandHome_settled`).
-/

namespace RunSteward

namespace DirPath

variable {p q : DirPath} {homes : Homes} {user : List Char} {e : HomeError}

/-! ## Paths and their texts -/

/-- A name that stands for a step of a path. -/
structure IsName (n : String) : Prop where
  ne_empty : n ≠ ""
  ne_dot : n ≠ "."
  no_slash : '/' ∉ n.toList

/-- A path as reading leaves it. -/
structure Proper (p : DirPath) : Prop where
  root : p.root = "" ∨ p.root = "/" ∨ p.root = "//"
  names : ∀ n ∈ p.names, IsName n

theorem rootOf_cases (s : List Char) : rootOf s = "" ∨ rootOf s = "/" ∨ rootOf s = "//" := by
  unfold rootOf
  split <;> simp

theorem read_proper (text : String) : (read text).Proper where
  root := rootOf_cases _
  names n hn := by
    obtain ⟨f, hf, rfl⟩ := List.mem_map.mp hn
    obtain ⟨hmem, hkept⟩ := List.mem_filter.mp hf
    simp only [Bool.and_eq_true, Bool.not_eq_true', List.isEmpty_eq_false_iff, bne_iff_ne] at hkept
    refine ⟨fun h => hkept.1 ?_, fun h => hkept.2 ?_, ?_⟩
    · simpa using congrArg String.toList h
    · simpa using congrArg String.toList h
    · simpa using Text.not_mem_of_mem_fields hmem

theorem takeWhile_names {names : List String} (h : ∀ n ∈ names, IsName n) :
    (['/'].intercalate (names.map String.toList)).takeWhile (· = '/') = [] := by
  cases names with
  | nil => rfl
  | cons n ns =>
    have hn := h n (by simp)
    obtain ⟨c, cs, hcs⟩ := List.exists_cons_of_ne_nil (l := n.toList) (by simpa using hn.ne_empty)
    have hslash : c ≠ '/' := fun heq => hn.no_slash (by simp [hcs, heq])
    rw [List.map_cons, Text.intercalate_cons, hcs]
    simp [hslash]

/-- The names that a path begins with are read off any text that only adds empty names to them. -/
theorem filter_fields_names {names : List String} (h : ∀ n ∈ names, IsName n) :
    ((Text.fields '/' (['/'].intercalate (names.map String.toList))).filter fun n =>
      !n.isEmpty && n != ['.']).map String.ofList = names := by
  cases names with
  | nil => rfl
  | cons n ns =>
    have hslashes : ∀ f ∈ (n :: ns).map String.toList, '/' ∉ f := by
      intro f hf
      obtain ⟨m, hm, rfl⟩ := List.mem_map.mp hf
      exact (h m hm).no_slash
    have hkept : ∀ f ∈ (n :: ns).map String.toList, (!f.isEmpty && f != ['.']) = true := by
      intro f hf
      obtain ⟨m, hm, rfl⟩ := List.mem_map.mp hf
      have hdot : m.toList ≠ ['.'] := fun heq => (h m hm).ne_dot (String.toList_inj.mp heq)
      simpa [hdot] using (h m hm).ne_empty
    rw [Text.fields_intercalate (by simp) hslashes, List.filter_eq_self.mpr hkept, List.map_map]
    simp

/-- **Reading undoes writing**: the text of a proper path names that path. -/
theorem read_text (h : p.Proper) : read p.text = p := by
  obtain ⟨root, names⟩ := p
  obtain ⟨hroot, hnames⟩ := h
  have hrow := takeWhile_names hnames
  have hread := filter_fields_names hnames
  by_cases hempty : root = "" ∧ names = []
  · obtain ⟨rfl, rfl⟩ := hempty
    rfl
  have htext : text ⟨root, names⟩ = root ++ "/".intercalate names := by
    rw [text, if_neg (by simpa using hempty)]
  have hchars : (text ⟨root, names⟩).toList = root.toList ++ ['/'].intercalate (names.map String.toList) := by
    rw [htext, String.toList_append, String.toList_intercalate]
    rfl
  rw [read, hchars]
  -- a root adds empty names in front, and these are dropped
  rcases hroot with hroot | hroot | hroot <;> dsimp only at hroot <;> subst hroot
  · rw [String.toList_empty, List.nil_append, rootOf, hrow, hread]
    rfl
  · rw [show "/".toList = ['/'] from rfl, List.singleton_append, rootOf]
    simp [hrow, Text.fields, hread]
  · rw [show "//".toList = ['/', '/'] from rfl, rootOf]
    simp [hrow, Text.fields, hread]

theorem Proper.text_ne_empty (h : p.Proper) : p.text ≠ "" := by
  intro hempty
  have hread := read_text h
  rw [hempty] at hread
  rw [← hread] at hempty
  exact absurd hempty (by decide)

/-! ## Finding the home directory -/

/-- A relative path that begins with a tilde and the name of somebody, or with a tilde alone. -/
def AsksFor (p : DirPath) (user : List Char) (below : List String) : Prop :=
  p.root = "" ∧ ∃ first, p.names = first :: below ∧ first.toList = '~' :: user

/-- A path whose beginning is its own: it is absolute, or its first name has no tilde. -/
def Anchored (p : DirPath) : Prop :=
  p.root = "" → ∃ first below, p.names = first :: below ∧ first.toList.head? ≠ some '~'

/-- Homes none of which begins with a tilde. -/
def AnchoredHomes (homes : Homes) : Prop :=
  ∀ user home, homes user = some home → (ofHome home).Anchored

/-- Why somebody has no home: nobody can have the name, or no home is known that begins with something else than a
tilde. -/
inductive Homeless (homes : Homes) (user : List Char) : HomeError → Prop where
  | impossible (h : '\x00' ∈ user) : Homeless homes user .impossibleUser
  | unknown (h : '\x00' ∉ user)
      (hnone : ∀ home, homes (if user.isEmpty then none else some (String.ofList user)) = some home →
        home.toList.head? = some '~') : Homeless homes user .unknownUser

theorem homeOf_eq_error : homeOf homes user = .error e ↔ Homeless homes user e := by
  unfold homeOf
  by_cases hnull : '\x00' ∈ user
  · rw [if_pos (by simpa using hnull)]
    constructor
    · rintro ⟨⟩
      exact .impossible hnull
    · rintro (_ | ⟨h, -⟩)
      · rfl
      · exact absurd hnull h
  rw [if_neg (by simpa using hnull)]
  generalize hasked : homes (if user.isEmpty then none else some (String.ofList user)) = found
  have hunknown : Homeless homes user e ↔
      e = .unknownUser ∧ ∀ home, found = some home → home.toList.head? = some '~' := by
    constructor
    · rintro (h | ⟨h, hnone⟩)
      · exact absurd h hnull
      · exact ⟨rfl, hasked ▸ hnone⟩
    · rintro ⟨rfl, hnone⟩
      exact .unknown hnull (hasked.symm ▸ hnone)
  rw [hunknown]
  rcases found with _ | home
  · simp [eq_comm]
  · by_cases htilde : home.toList.head? = some '~'
    · simp [htilde, eq_comm]
    · simp [htilde]

theorem homeOf_proper {home : DirPath} (h : homeOf homes user = .ok home) : home.Proper := by
  unfold homeOf at h
  split at h
  · cases h
  · split at h
    · cases h
    · next text _ =>
      split at h
      · cases h
      · obtain rfl := Except.ok.inj h
        unfold ofHome
        split
        · exact read_proper _
        · exact read_proper _

theorem homeOf_anchored (h : AnchoredHomes homes) {home : DirPath} (hhome : homeOf homes user = .ok home) :
    home.Anchored := by
  unfold homeOf at hhome
  split at hhome
  · cases hhome
  · split at hhome
    · cases hhome
    · next text hfound =>
      split at hhome
      · cases hhome
      · obtain rfl := Except.ok.inj hhome
        exact h _ _ hfound

/-- What becomes of a path: it is its own, it is put below the home directory of somebody, or this is not found. -/
inductive Expansion (p : DirPath) (homes : Homes) : Except HomeError DirPath → Prop where
  | own (h : ∀ others, p.expandHome others = .ok p) : Expansion p homes (.ok p)
  | below {user : List Char} {rest : List String} {home : DirPath} (h : p.AsksFor user rest)
      (hhome : homeOf homes user = .ok home) : Expansion p homes (.ok ⟨home.root, home.names ++ rest⟩)
  | nowhere {user : List Char} {rest : List String} {e : HomeError} (h : p.AsksFor user rest)
      (he : homeOf homes user = .error e) : Expansion p homes (.error e)

theorem expandHome_of_asksFor {rest : List String} (h : p.AsksFor user rest) :
    p.expandHome homes = (homeOf homes user).map fun home => ⟨home.root, home.names ++ rest⟩ := by
  obtain ⟨hroot, first, hnames, hfirst⟩ := h
  simp [expandHome, hnames, hfirst, hroot]

theorem expandHome_of_anchored (h : p.Anchored) (homes : Homes) : p.expandHome homes = .ok p := by
  rcases hnames : p.names with _ | ⟨first, rest⟩
  · simp [expandHome, hnames]
  · by_cases hroot : p.root = ""
    · obtain ⟨other, below, hother, htilde⟩ := h hroot
      obtain ⟨rfl, -⟩ := List.cons.inj (hnames.symm.trans hother)
      simp only [expandHome, hnames]
      split
      · next user hfirst => simp [hfirst] at htilde
      · rfl
    · simp only [expandHome, hnames]
      split
      · simp [hroot]
      · rfl

theorem expandHome_expansion (p : DirPath) (homes : Homes) : Expansion p homes (p.expandHome homes) := by
  have hown : (∀ others, p.expandHome others = .ok p) → Expansion p homes (p.expandHome homes) := by
    intro hown
    rw [hown homes]
    exact .own hown
  by_cases hroot : p.root = ""
  · rcases hnames : p.names with _ | ⟨first, rest⟩
    · exact hown fun others => by simp [expandHome, hnames]
    · by_cases htilde : first.toList.head? = some '~'
      · obtain ⟨user, hfirst⟩ := List.head?_eq_some_iff.mp htilde
        have hasks : p.AsksFor user rest := ⟨hroot, first, hnames, hfirst⟩
        rw [expandHome_of_asksFor hasks]
        rcases hhome : homeOf homes user with e | home
        · exact .nowhere hasks hhome
        · exact .below hasks hhome
      · exact hown (expandHome_of_anchored fun _ => ⟨first, rest, hnames, htilde⟩)
  · exact hown (expandHome_of_anchored fun h => absurd h hroot)

theorem expandHome_eq_error :
    p.expandHome homes = .error e ↔ ∃ user rest, p.AsksFor user rest ∧ Homeless homes user e := by
  constructor
  · intro h
    have hexpansion := expandHome_expansion p homes
    rw [h] at hexpansion
    cases hexpansion with
    | nowhere hasks he => exact ⟨_, _, hasks, homeOf_eq_error.mp he⟩
  · rintro ⟨user, rest, hasks, hhomeless⟩
    rw [expandHome_of_asksFor hasks, homeOf_eq_error.mpr hhomeless]
    rfl

theorem Anchored.below {home : DirPath} (h : home.Anchored) (rest : List String) :
    Anchored ⟨home.root, home.names ++ rest⟩ := by
  intro hroot
  obtain ⟨first, names, hnames, htilde⟩ := h hroot
  exact ⟨first, names ++ rest, by simp [hnames], htilde⟩

theorem expandHome_settled (hhomes : AnchoredHomes homes) (h : p.expandHome homes = .ok q) :
    q.expandHome homes = .ok q := by
  have hexpansion := expandHome_expansion p homes
  rw [h] at hexpansion
  cases hexpansion with
  | own hown => exact hown homes
  | below _ hhome => exact expandHome_of_anchored ((homeOf_anchored hhomes hhome).below _) homes

theorem expandHome_proper (hp : p.Proper) (h : p.expandHome homes = .ok q) : q.Proper := by
  have hexpansion := expandHome_expansion p homes
  rw [h] at hexpansion
  cases hexpansion with
  | own => exact hp
  | below hasks hhome =>
    obtain ⟨-, first, hnames, -⟩ := hasks
    have hhome := homeOf_proper hhome
    refine ⟨hhome.root, fun n hn => ?_⟩
    rcases List.mem_append.mp hn with hn | hn
    · exact hhome.names n hn
    · exact hp.names n (by simp [hnames, hn])

end DirPath

end RunSteward
