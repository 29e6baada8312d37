import RunSteward.Proofs.Host.Changes
import RunSteward.Proofs.Host.Paging
import RunSteward.Proofs.PullRequest.Permission

/-!
# When permission is granted

A call grants permission exactly if all comments were listed, the one that decides asks for CI as it must, and its
removal is done (`ResumeGate.shouldResume_exact`). The comment that decides is the only one whose removal is ever asked
for. It is told by the instants and the ids of the comments alone, so neither the order of the comments nor their pages
or time zones matter.
-/

namespace RunSteward

open Act Host Fetch

variable {σ τ : Type}

/-! ## What counts of a comment -/

namespace Comment

/-- What counts of a comment: its id, its author, its text and the instant at which it was touched last. -/
def substance (c : Comment) : Int × String × String × Int :=
  (c.id, c.authorLogin, c.body, c.updatedAt.instant)

variable {c d e : Comment} {cs cs' : List Comment}

theorem notAfter_congr {c' d' : Comment} (hc : c.substance = c'.substance) (hd : d.substance = d'.substance) :
    c.NotAfter d ↔ c'.NotAfter d' := by
  simp only [substance, Prod.mk.injEq] at hc hd
  obtain ⟨hid, -, -, hinstant⟩ := hc
  obtain ⟨hid', -, -, hinstant'⟩ := hd
  rw [NotAfter, NotAfter, hid, hinstant, hid', hinstant']

theorem exists_decides (hne : cs ≠ []) : ∃ c, Decides cs c := by
  obtain ⟨c, cs, rfl⟩ := List.exists_cons_of_ne_nil hne
  exact ⟨_, decides_foldl c cs⟩

/-- On lists of comments with the same substance, and with different ids, the same comment decides. -/
theorem Decides.substance_eq (h : Decides cs c) (h' : Decides cs' d)
    (hsame : (cs.map substance).Perm (cs'.map substance)) (hids : (cs'.map Comment.id).Nodup) :
    c.substance = d.substance := by
  obtain ⟨e, he, hec⟩ := List.mem_map.mp (hsame.mem_iff.mp (List.mem_map_of_mem h.latest.mem))
  obtain ⟨f, hf, hfd⟩ := List.mem_map.mp (hsame.mem_iff.mpr (List.mem_map_of_mem h'.latest.mem))
  have hfirst : e.NotAfter d := h'.latest.last e he
  have hsecond : d.NotAfter e := (notAfter_congr hfd hec.symm).mp (h.latest.last f hf)
  -- neither comes after the other, so they have one id
  have hid : e.id = d.id := by
    unfold NotAfter at hfirst hsecond
    omega
  rw [← hec, List.inj_on_of_nodup_map hids he h'.latest.mem hid]

theorem commands_congr {settings : GovernanceSettings} (h : c.substance = d.substance) :
    c.Commands settings ↔ d.Commands settings := by
  simp only [substance, Prod.mk.injEq] at h
  obtain ⟨-, hauthor, hbody, -⟩ := h
  constructor
  · rintro ⟨hphrase, hgiven, htrusted⟩
    exact ⟨hbody ▸ hphrase, hauthor ▸ hgiven, hauthor ▸ htrusted⟩
  · rintro ⟨hphrase, hgiven, htrusted⟩
    exact ⟨hbody ▸ hphrase, hauthor ▸ hgiven, hauthor ▸ htrusted⟩

end Comment

namespace ResumeGate

open Comment

variable {g : ResumeGate σ} {settings : GovernanceSettings} {cs cs' : List Comment} {c : Comment} {number : Int}
  {pr : PullRequest} {s : Scope} {d d' : Desk σ}

/-! ## The comment whose removal is due -/

theorem wanted?_of_same (hsame : (cs.map substance).Perm (cs'.map substance)) (hids : (cs'.map Comment.id).Nodup)
    (h : wanted? settings cs = some c) : ∃ c', wanted? settings cs' = some c' ∧ c.substance = c'.substance := by
  obtain ⟨hdecides, hcommands⟩ := wanted?_eq_some.mp h
  have hne : cs' ≠ [] := by
    rintro rfl
    have hnone := hdecides.latest.mem
    rw [List.map_eq_nil_iff.mp hsame.eq_nil] at hnone
    cases hnone
  obtain ⟨c', hdecides'⟩ := exists_decides hne
  have heq := hdecides.substance_eq hdecides' hsame hids
  exact ⟨c', wanted?_eq_some.mpr ⟨hdecides', (commands_congr heq).mp hcommands⟩, heq⟩

theorem wanted?_congr (settings : GovernanceSettings) (hsame : (cs.map substance).Perm (cs'.map substance))
    (hids : (cs'.map Comment.id).Nodup) :
    (wanted? settings cs).map substance = (wanted? settings cs').map substance := by
  have hids' : (cs.map Comment.id).Nodup := by
    have hperm : (cs.map Comment.id).Perm (cs'.map Comment.id) := by
      simpa [Function.comp_def, substance] using hsame.map Prod.fst
    exact hperm.nodup_iff.mpr hids
  cases hwanted : wanted? settings cs with
  | some c =>
    obtain ⟨c', hwanted', heq⟩ := wanted?_of_same hsame hids hwanted
    rw [hwanted', Option.map_some, Option.map_some, heq]
  | none =>
    cases hwanted' : wanted? settings cs' with
    | none => rfl
    | some c' =>
      obtain ⟨c, hback, -⟩ := wanted?_of_same hsame.symm hids' hwanted'
      rw [hwanted] at hback
      cases hback

/-- What a call answers, given how the removal of the comment ended. -/
def granted : Except Failure Unit → Except Failure Bool
  | .ok _ => .ok true
  | .error (.host _) => .ok false
  | .error (.fault f) => .error (.fault f)

theorem consume_apply (g : ResumeGate σ) (number : Int) (c : Comment) (s : Scope) (d : Desk σ) :
    ∃ log, g.consume number c s d = (granted (g.host.removeComment c.id s d).1,
      { (g.host.removeComment c.id s d).2 with log := log }) := by
  unfold consume
  rcases hremove : g.host.removeComment c.id s d with ⟨(e | f) | _, d'⟩
  · exact ⟨_, bind_of_ok _ (attempt_of_refusal hremove)⟩
  · exact ⟨_, bind_of_error _ (attempt_of_fault hremove)⟩
  · exact ⟨_, bind_of_ok _ (attempt_of_ok hremove)⟩

/-- The comment whose removal a call asks for: the one that gives permission, if all comments were listed. -/
def due? (g : ResumeGate σ) (pr : PullRequest) (s : Scope) (d : Desk σ) : Option Comment :=
  match (g.host.gather (.comments pr.number) s d).1 with
  | .ok (cs, none) => wanted? g.settings cs
  | _ => none

/-- All comments were listed, and the one that decides asks for CI as it must. -/
structure Due (g : ResumeGate σ) (pr : PullRequest) (s : Scope) (d : Desk σ)
    (fetches : List (Fetch σ (.comments pr.number))) (c : Comment) : Prop where
  shows : g.host.Shows (.comments pr.number) s d fetches none
  decides : Decides (listed fetches) c
  commands : c.Commands g.settings

theorem due?_eq_some : g.due? pr s d = some c ↔ ∃ fetches, g.Due pr s d fetches c := by
  constructor
  · intro h
    unfold due? at h
    rcases hgather : g.host.gather (.comments pr.number) s d with ⟨f | ⟨cs, _ | e⟩, d'⟩ <;> rw [hgather] at h
    · cases h
    · obtain ⟨fetches, hchain, hfits, rfl, -⟩ := exists_chain hgather
      obtain ⟨hdecides, hcommands⟩ := wanted?_eq_some.mp h
      exact ⟨fetches, ⟨hchain, hfits⟩, hdecides, hcommands⟩
    · cases h
  · rintro ⟨fetches, hshows, hdecides, hcommands⟩
    rw [due?, hshows.gather]
    exact wanted?_eq_some.mpr ⟨hdecides, hcommands⟩

theorem shouldResume_of_collected (h : g.host.collect (.comments pr.number) s d = (.ok cs, d')) :
    g.shouldResume pr s d = g.judge pr.number cs s d' := by
  rw [shouldResume, bind_of_ok _ (attempt_of_ok h)]

theorem shouldResume_of_refused {e : HostError}
    (h : g.host.collect (.comments pr.number) s d = (.error (.host e), d')) :
    ∃ log, g.shouldResume pr s d = (.ok false, { d' with log := log }) := by
  rw [shouldResume, bind_of_ok _ (attempt_of_refusal h)]
  exact ⟨_, rfl⟩

theorem shouldResume_of_fault {f : Fault}
    (h : g.host.collect (.comments pr.number) s d = (.error (.fault f), d')) :
    g.shouldResume pr s d = (.error (.fault f), d') := by
  rw [shouldResume, bind_of_error _ (attempt_of_fault h)]

theorem shouldResume_of_due {fetches : List (Fetch σ (.comments pr.number))} (h : g.Due pr s d fetches c) :
    g.shouldResume pr s d = g.consume pr.number c s (reached d fetches) := by
  rw [shouldResume_of_collected h.shows.collect]
  rw [judge_of_wanted g _ (wanted?_eq_some.mpr ⟨h.decides, h.commands⟩)]

theorem shouldResume_of_undue (h : g.due? pr s d = none) :
    ∃ log, (g.shouldResume pr s d).2 = { (g.host.gather (.comments pr.number) s d).2 with log := log } ∧
      ((g.shouldResume pr s d).1 = .ok false ∨ ∃ f, (g.shouldResume pr s d).1 = .error (.fault f)) := by
  unfold due? at h
  rcases hgather : g.host.gather (.comments pr.number) s d with ⟨(e | f) | ⟨cs, _ | e⟩, d'⟩ <;> rw [hgather] at h
  · obtain ⟨log, hend⟩ := shouldResume_of_refused (bind_of_error _ hgather)
    rw [hend]
    exact ⟨log, rfl, .inl rfl⟩
  · rw [shouldResume_of_fault (bind_of_error _ hgather)]
    exact ⟨d'.log, rfl, .inr ⟨f, rfl⟩⟩
  · obtain ⟨log, hjudge⟩ := judge_of_unwanted g pr.number h s d'
    rw [shouldResume_of_collected (collect_of_gather hgather), hjudge]
    exact ⟨log, rfl, .inl rfl⟩
  · obtain ⟨log, hend⟩ := shouldResume_of_refused (collect_of_gather hgather)
    rw [hend]
    exact ⟨log, rfl, .inl rfl⟩

/-! ## The changes that a call asks for -/

/-- A gate whose host notes the changes it is asked for. -/
def noted (g : ResumeGate σ) : ResumeGate (Noted σ) :=
  ⟨g.host.noted, g.settings⟩

variable {e : Desk (Noted σ)}

theorem due?_noted (h : d.Beside e) : g.noted.due? pr s e = g.due? pr s d := by
  have hsame := ((gather_beside g.host (.comments pr.number)).same (s := s) h).1
  rw [due?, due?, hsame]
  rfl

theorem consume_beside (g : ResumeGate σ) (number : Int) (c : Comment) :
    Alike Desk.Beside (g.consume number c) (g.noted.consume number c) := by
  refine Alike.bind (noting_alike _ _).attempt fun answer => ?_
  cases answer with
  | error e => exact Alike.bind (record_beside _ _ _) fun _ => alike_pure _
  | ok _ => exact Alike.bind (record_beside _ _ _) fun _ => alike_pure _

theorem skip_beside (number : Int) (reason : String) (more : LogFields) :
    Alike (Desk.Beside : Desk σ → Desk (Noted σ) → Prop) (do skip number reason more; return false)
      (do skip number reason more; return false) :=
  Alike.bind (record_beside _ _ _) fun _ => alike_pure _

theorem judge_beside (g : ResumeGate σ) (number : Int) (cs : List Comment) :
    Alike Desk.Beside (g.judge number cs) (g.noted.judge number cs) := by
  unfold judge
  rw [show g.noted.settings = g.settings from rfl]
  cases latest? cs with
  | none => exact skip_beside _ _ _
  | some c =>
    dsimp only
    by_cases hcommand : (!isCommand g.settings c) = true
    · rw [if_pos hcommand, if_pos hcommand]
      exact skip_beside _ _ _
    · rw [if_neg hcommand, if_neg hcommand]
      by_cases htrusted : (!g.settings.isTrusted c.authorLogin) = true
      · rw [if_pos htrusted, if_pos htrusted]
        exact skip_beside _ _ _
      · rw [if_neg htrusted, if_neg htrusted]
        exact consume_beside g _ c

theorem shouldResume_beside (g : ResumeGate σ) (pr : PullRequest) :
    Alike Desk.Beside (g.shouldResume pr) (g.noted.shouldResume pr) := by
  refine Alike.bind (collect_beside g.host _).attempt fun answer => ?_
  cases answer with
  | error e => exact Alike.bind (record_beside _ _ _) fun _ => alike_pure _
  | ok cs => exact judge_beside g pr.number cs

theorem shouldResume_changes (h : d.Beside e) :
    (g.noted.shouldResume pr s e).2.world.changes =
      e.world.changes ++ (((g.due? pr s d).map Comment.id).map HostChange.removeComment).toList := by
  have hread : (g.noted.host.gather (.comments pr.number) s e).2.world.changes = e.world.changes :=
    (gather_noted g.host (.comments pr.number) e.world.changes s e rfl).1
  rw [← due?_noted h]
  cases hdue : g.noted.due? pr s e with
  | none =>
    obtain ⟨log, hafter, -⟩ := shouldResume_of_undue hdue
    rw [hafter]
    exact hread.trans (List.append_nil _).symm
  | some c =>
    obtain ⟨fetches, hfetches⟩ := due?_eq_some.mp hdue
    obtain ⟨log, hconsume⟩ := consume_apply g.noted pr.number c s (reached e fetches)
    rw [shouldResume_of_due hfetches, hconsume]
    -- reading asked for nothing, so the removal is the only change
    rw [hfetches.shows.gather] at hread
    show (noting _ _ s (reached e fetches)).2.world.changes = _
    rw [noting_changes, hread]
    rfl

/-! ## The answer -/

theorem granted_eq_true {r : Except Failure Unit} : granted r = .ok true ↔ r = .ok () := by
  rcases r with (e | f) | _ <;> simp [granted]

theorem granted_ne_refused (r : Except Failure Unit) (error : HostError) : granted r ≠ .error (.host error) := by
  rcases r with (e | f) | _ <;> simp [granted]

theorem answer_of_due {fetches : List (Fetch σ (.comments pr.number))} (h : g.Due pr s d fetches c) :
    (g.shouldResume pr s d).1 = granted (g.host.removeComment c.id s (reached d fetches)).1 := by
  obtain ⟨log, hconsume⟩ := consume_apply g pr.number c s (reached d fetches)
  rw [shouldResume_of_due h, hconsume]

theorem undue_iff : g.due? pr s d = none ↔ ∀ fetches c, ¬g.Due pr s d fetches c := by
  rw [Option.eq_none_iff_forall_ne_some]
  constructor
  · intro h fetches c hdue
    exact h c (due?_eq_some.mpr ⟨fetches, hdue⟩)
  · intro h c hdue
    obtain ⟨fetches, hfetches⟩ := due?_eq_some.mp hdue
    exact h fetches c hfetches

theorem shouldResume_eq_true : (g.shouldResume pr s d).1 = .ok true ↔ ∃ fetches c, g.Due pr s d fetches c ∧
    (g.host.removeComment c.id s (reached d fetches)).1 = .ok () := by
  constructor
  · intro htrue
    cases hdue : g.due? pr s d with
    | none =>
      obtain ⟨log, -, hno | ⟨f, hfault⟩⟩ := shouldResume_of_undue hdue
      · rw [htrue] at hno
        cases hno
      · rw [htrue] at hfault
        cases hfault
    | some c =>
      obtain ⟨fetches, hfetches⟩ := due?_eq_some.mp hdue
      rw [answer_of_due hfetches, granted_eq_true] at htrue
      exact ⟨fetches, c, hfetches, htrue⟩
  · rintro ⟨fetches, c, hdue, hremoved⟩
    rw [answer_of_due hdue, granted_eq_true]
    exact hremoved

theorem shouldResume_ne_refused (error : HostError) : (g.shouldResume pr s d).1 ≠ .error (.host error) := by
  intro hescaped
  cases hdue : g.due? pr s d with
  | none =>
    obtain ⟨log, -, hno | ⟨f, hfault⟩⟩ := shouldResume_of_undue hdue
    · rw [hescaped] at hno
      cases hno
    · rw [hescaped] at hfault
      cases hfault
  | some c =>
    obtain ⟨fetches, hfetches⟩ := due?_eq_some.mp hdue
    rw [answer_of_due hfetches] at hescaped
    exact granted_ne_refused _ error hescaped

theorem due?_of_shows {fetches : List (Fetch σ (.comments pr.number))}
    (h : g.host.Shows (.comments pr.number) s d fetches none) : g.due? pr s d = wanted? g.settings (listed fetches) := by
  rw [due?, h.gather]

/-- Once all comments are listed, the call answers no unless one of them is wanted, and then as its removal ends. -/
theorem shouldResume_of_shows {fetches : List (Fetch σ (.comments pr.number))}
    (h : g.host.Shows (.comments pr.number) s d fetches none) :
    (g.shouldResume pr s d).1 = (wanted? g.settings (listed fetches)).elim (.ok false) fun c =>
      granted (g.host.removeComment c.id s (reached d fetches)).1 := by
  rw [shouldResume_of_collected h.collect]
  cases hwanted : wanted? g.settings (listed fetches) with
  | none =>
    obtain ⟨log, hjudge⟩ := judge_of_unwanted g pr.number hwanted s (reached d fetches)
    rw [hjudge]
    rfl
  | some c =>
    obtain ⟨log, hconsume⟩ := consume_apply g pr.number c s (reached d fetches)
    rw [judge_of_wanted g pr.number hwanted, hconsume]
    rfl

theorem shouldResume_congr {g' : ResumeGate τ} {pr' : PullRequest} {s' : Scope} {d₁ : Desk τ}
    {fetches : List (Fetch σ (.comments pr.number))} {fetches' : List (Fetch τ (.comments pr'.number))}
    (hsettings : g'.settings = g.settings) (hshows : g.host.Shows (.comments pr.number) s d fetches none)
    (hshows' : g'.host.Shows (.comments pr'.number) s' d₁ fetches' none)
    (hsame : ((listed fetches).map substance).Perm ((listed fetches').map substance))
    (hids : ((listed fetches').map Comment.id).Nodup)
    (hremovals : ∀ c ∈ listed fetches, (g.host.removeComment c.id s (reached d fetches)).1 =
      (g'.host.removeComment c.id s' (reached d₁ fetches')).1) :
    (g.shouldResume pr s d).1 = (g'.shouldResume pr' s' d₁).1 ∧
      (g.due? pr s d).map Comment.id = (g'.due? pr' s' d₁).map Comment.id := by
  have hcongr := wanted?_congr g.settings hsame hids
  rw [due?_of_shows hshows, due?_of_shows hshows', shouldResume_of_shows hshows, shouldResume_of_shows hshows',
    hsettings]
  cases hwanted : wanted? g.settings (listed fetches) with
  | none =>
    rw [hwanted, Option.map_none, eq_comm, Option.map_eq_none_iff] at hcongr
    rw [hcongr]
    exact ⟨rfl, rfl⟩
  | some c =>
    rw [hwanted, Option.map_some, eq_comm, Option.map_eq_some_iff] at hcongr
    obtain ⟨c', hwanted', heq⟩ := hcongr
    have hid : c'.id = c.id := congrArg Prod.fst heq
    have hmem : c ∈ listed fetches := (wanted?_eq_some.mp hwanted).1.latest.mem
    rw [hwanted']
    show granted _ = granted _ ∧ some c.id = some c'.id
    rw [hremovals c hmem, hid]
    exact ⟨rfl, rfl⟩

/-- **When permission is granted.** A call grants permission exactly if all comments on the pull request were listed,
the
one that decides asks for CI as it must, and its removal is done. No refusal of the host escapes. The removal of that
comment is asked for exactly if all the rest holds, and the host is asked for no other change. For comments with
different ids the answer and the id depend on nothing but their substance: not on their order, on the pages that they
come on, or on the zones of their times. -/
theorem shouldResume_exact (g : ResumeGate σ) (pr : PullRequest) (s : Scope) (d : Desk σ) :
    ((g.shouldResume pr s d).1 = .ok true ↔ ∃ fetches c, g.Due pr s d fetches c ∧
        (g.host.removeComment c.id s (reached d fetches)).1 = .ok ()) ∧
      (∀ error, (g.shouldResume pr s d).1 ≠ .error (.host error)) ∧
      (g.noted.shouldResume pr s d.noted).1 = (g.shouldResume pr s d).1 ∧
      (∀ fetches c, g.Due pr s d fetches c →
        (g.noted.shouldResume pr s d.noted).2.world.changes = [.removeComment c.id]) ∧
      ((∀ fetches c, ¬g.Due pr s d fetches c) → (g.noted.shouldResume pr s d.noted).2.world.changes = []) ∧
      ∀ (τ : Type) (g' : ResumeGate τ) (pr' : PullRequest) (s' : Scope) (d' : Desk τ)
        (fetches : List (Fetch σ (.comments pr.number))) (fetches' : List (Fetch τ (.comments pr'.number))),
        g'.settings = g.settings → g.host.Shows (.comments pr.number) s d fetches none →
        g'.host.Shows (.comments pr'.number) s' d' fetches' none →
        ((listed fetches).map substance).Perm ((listed fetches').map substance) →
        ((listed fetches').map Comment.id).Nodup →
        (∀ c ∈ listed fetches, (g.host.removeComment c.id s (reached d fetches)).1 =
          (g'.host.removeComment c.id s' (reached d' fetches')).1) →
        (g.shouldResume pr s d).1 = (g'.shouldResume pr' s' d').1 ∧
          (g.noted.shouldResume pr s d.noted).2.world.changes =
            (g'.noted.shouldResume pr' s' d'.noted).2.world.changes := by
  have hbeside : d.Beside d.noted := rfl
  refine ⟨shouldResume_eq_true, shouldResume_ne_refused, ?_, ?_, ?_, ?_⟩
  · exact ((shouldResume_beside g pr).same hbeside).1.symm
  · intro fetches c hdue
    rw [shouldResume_changes hbeside, due?_eq_some.mpr ⟨fetches, hdue⟩]
    rfl
  · intro hnone
    rw [shouldResume_changes hbeside, undue_iff.mpr hnone]
    rfl
  · intro τ g' pr' s' d' fetches fetches' hsettings hshows hshows' hsame hids hremovals
    obtain ⟨hanswer, hasked⟩ := shouldResume_congr hsettings hshows hshows' hsame hids hremovals
    have hbeside' : d'.Beside d'.noted := rfl
    refine ⟨hanswer, ?_⟩
    rw [shouldResume_changes hbeside, shouldResume_changes hbeside', hasked]
    rfl

/-- A gate of a host with pages of comments that are laid out. -/
def ofPages (comments : List (Except HostError (List Comment))) : ResumeGate Unit where
  host := Host.ofPages fun
    | .comments _ => comments
    | .branches | .milestones | .labels | .pullRequests | .files _ | .commits _ | .statuses _ | .runs _ => []
  settings := { trustedCommitters := ["alice"] }

/-- Five in the morning, five hours ahead of UTC. -/
def early : Stamp :=
  { (default : Stamp) with
    time := { TimeOfDay.midnight with hour := 5, hour_lt := by decide }, offset := Offset.of? 18000000000 }

def asked : Comment :=
  remark 5 "alice" " @apereocas-bot runci\n"

def spread : ResumeGate Unit :=
  ofPages [.ok [asked], .ok [], .ok [remark 4 "mallory" "hello"]]

def packed : ResumeGate Unit :=
  ofPages [.ok [remark 4 "mallory" "hello", { asked with updatedAt := early }]]

/-- Of two comments of one instant the one with the greater id decides, on whatever pages they come. -/
theorem shouldResume_exact_rearranged :
    (spread.shouldResume ninth {} ⟨(), #[]⟩).1 = .ok true ∧
      (spread.noted.shouldResume ninth {} (Desk.noted ⟨(), #[]⟩)).2.world.changes = [.removeComment 5] ∧
      (packed.shouldResume ninth {} ⟨(), #[]⟩).1 = .ok true ∧
      (packed.noted.shouldResume ninth {} (Desk.noted ⟨(), #[]⟩)).2.world.changes = [.removeComment 5] := by
  obtain ⟨fetches, hshows, hshown⟩ :
      ∃ fetches, spread.host.Shows (.comments ninth.number) {} ⟨(), #[]⟩ fetches none ∧ _ :=
    Host.ofPages_shows _ (.comments ninth.number) (by simp) (by decide) {} ⟨(), #[]⟩
  obtain ⟨fetches', hshows', hshown'⟩ :
      ∃ fetches, packed.host.Shows (.comments ninth.number) {} ⟨(), #[]⟩ fetches none ∧ _ :=
    Host.ofPages_shows _ (.comments ninth.number) (by simp) (by decide) {} ⟨(), #[]⟩
  have hlisted : listed fetches = [asked, remark 4 "mallory" "hello"] := by rw [listed_eq, hshown]; rfl
  have hlisted' : listed fetches' = [remark 4 "mallory" "hello", { asked with updatedAt := early }] := by
    rw [listed_eq, hshown']; rfl
  have hdue : spread.Due ninth {} ⟨(), #[]⟩ fetches asked := by
    refine ⟨hshows, ?_, commands_iff.mpr (by decide +kernel)⟩
    rw [hlisted]
    exact latest?_eq_some.mp (by decide +kernel)
  obtain ⟨htrue, -, -, hchanges, -, hsame⟩ := shouldResume_exact spread ninth {} ⟨(), #[]⟩
  have hgranted := htrue.mpr ⟨fetches, asked, hdue, rfl⟩
  have hremoved := hchanges fetches asked hdue
  obtain ⟨hanswer, hasked⟩ := hsame Unit packed ninth {} ⟨(), #[]⟩ fetches fetches' rfl hshows hshows'
    (by rw [hlisted, hlisted']; decide +kernel) (by rw [hlisted']; decide) (fun _ _ => rfl)
  exact ⟨hgranted, hremoved, hanswer ▸ hgranted, hasked ▸ hremoved⟩

end ResumeGate

end RunSteward
