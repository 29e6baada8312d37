import Mathlib.Data.List.Induction
import RunSteward.PullRequest.Resume
import RunSteward.Proofs.PullRequest.CommentBoard

/-!
# Permission for one time

A call that grants permission has deleted the comment that asked for it: the latest one on the pull request, which
holds nothing but the trigger phrase and comes from a trusted committer (`ResumeGate.shouldResume_ends`). As no id is
used again, a deleted comment stays away whatever others write in the meantime. By induction on the history no comment
gives permission twice (`ResumeGate.permissions_one_shot`).
-/

namespace RunSteward

open Act

variable {σ : Type}

/-! ## The comment that decides -/

namespace Comment

/-- A comment that does not come after another one. Of two that were touched at one instant the one with the greater id
comes after the other. -/
def NotAfter (c d : Comment) : Prop :=
  c.updatedAt.instant < d.updatedAt.instant ∨ (c.updatedAt.instant = d.updatedAt.instant ∧ c.id ≤ d.id)

/-- The comment that no other one on a list comes after. -/
structure Latest (cs : List Comment) (c : Comment) : Prop where
  mem : c ∈ cs
  last : ∀ d ∈ cs, d.NotAfter c

/-- The comment that decides: one that was touched last, and of equal ones the first. -/
def Decides (cs : List Comment) (c : Comment) : Prop :=
  ∃ before after, cs = before ++ c :: after ∧ (∀ d ∈ before, ¬c.NotAfter d) ∧ ∀ d ∈ after, d.NotAfter c

variable {c d e : Comment} {cs cs' : List Comment}

theorem NotAfter.refl (c : Comment) : c.NotAfter c :=
  .inr ⟨rfl, Int.le_refl _⟩

theorem NotAfter.trans (h : c.NotAfter d) (h' : d.NotAfter e) : c.NotAfter e := by
  unfold NotAfter at *
  omega

theorem isLater_iff : c.isLater d = true ↔ ¬c.NotAfter d := by
  simp only [isLater, NotAfter, Bool.or_eq_true, Bool.and_eq_true, decide_eq_true_eq, beq_iff_eq]
  omega

theorem NotAfter.total (c d : Comment) : c.NotAfter d ∨ d.NotAfter c := by
  unfold NotAfter
  omega

theorem Decides.latest (h : Decides cs c) : Latest cs c := by
  obtain ⟨before, after, rfl, hbefore, hafter⟩ := h
  refine ⟨by simp, fun d hd => ?_⟩
  rcases List.mem_append.mp hd with hd | hd
  · exact (NotAfter.total c d).resolve_left (hbefore d hd)
  · rcases List.mem_cons.mp hd with rfl | hd
    · exact NotAfter.refl d
    · exact hafter d hd

/-- One more comment at the end decides if it is later than the one that decided before. -/
theorem Decides.concat (h : Decides cs c) (d : Comment) : Decides (cs ++ [d]) (if d.isLater c then d else c) := by
  by_cases hlater : d.isLater c = true
  · rw [if_pos hlater]
    refine ⟨cs, [], rfl, fun x hx hnot => ?_, by simp⟩
    exact isLater_iff.mp hlater (hnot.trans (h.latest.last x hx))
  · rw [if_neg hlater]
    obtain ⟨before, after, rfl, hbefore, hafter⟩ := h
    refine ⟨before, after ++ [d], by simp, hbefore, fun x hx => ?_⟩
    rcases List.mem_append.mp hx with hx | hx
    · exact hafter x hx
    · rw [List.mem_singleton.mp hx]
      exact not_not.mp (mt isLater_iff.mpr hlater)

theorem decides_foldl (c : Comment) (cs : List Comment) :
    Decides (c :: cs) (cs.foldl (fun best d => if d.isLater best then d else best) c) := by
  -- from the end of the list, where the fold compares what decides so far with one more comment
  induction cs using List.reverseRecOn with
  | nil => exact ⟨[], [], rfl, by simp, by simp⟩
  | append_singleton cs d ih =>
    rw [List.foldl_append]
    exact ih.concat d

theorem Decides.unique (h : Decides cs c) (h' : Decides cs d) : c = d := by
  obtain ⟨before, after, rfl, hbefore, hafter⟩ := h
  obtain ⟨before', after', hsplit, hbefore', hafter'⟩ := h'
  rcases List.append_eq_append_iff.mp hsplit with ⟨between, rfl, htail⟩ | ⟨between, rfl, htail⟩
  · rcases between with _ | ⟨x, between⟩
    · exact (List.cons.inj htail).1
    · obtain ⟨rfl, rfl⟩ := List.cons.inj htail
      exact absurd (hafter d (by simp)) (hbefore' c (by simp))
  · rcases between with _ | ⟨x, between⟩
    · exact (List.cons.inj htail).1.symm
    · obtain ⟨rfl, rfl⟩ := List.cons.inj htail
      exact absurd (hafter' c (by simp)) (hbefore d (by simp))

theorem latest?_eq_some : latest? cs = some c ↔ Decides cs c := by
  cases cs with
  | nil => simp [latest?, Decides]
  | cons d cs =>
    rw [latest?, Option.some.injEq]
    constructor
    · rintro rfl
      exact decides_foldl d cs
    · exact (decides_foldl d cs).unique

theorem Latest.perm (h : Latest cs c) (hperm : cs.Perm cs') : Latest cs' c :=
  ⟨hperm.mem_iff.mp h.mem, fun d hd => h.last d (hperm.mem_iff.mpr hd)⟩

/-- A comment that asks for CI as it must, blanks aside. -/
structure Commands (settings : GovernanceSettings) (c : Comment) : Prop where
  phrase : Text.trim c.body = settings.resumeTriggerPhrase
  given : Text.trim c.authorLogin ≠ ""
  trusted : Text.trim c.authorLogin ∈ settings.trustedCommitters

end Comment

/-! ## One call -/

namespace ResumeGate

variable {g : ResumeGate σ} {board : σ → CommentBoard}

theorem commands_iff {settings : GovernanceSettings} {c : Comment} :
    c.Commands settings ↔ isCommand settings c = true ∧ settings.isTrusted c.authorLogin = true := by
  have hphrase : isCommand settings c = true ↔ Text.trim c.body = settings.resumeTriggerPhrase := beq_iff_eq
  have htrusted : settings.isTrusted c.authorLogin = true ↔
      Text.trim c.authorLogin ≠ "" ∧ Text.trim c.authorLogin ∈ settings.trustedCommitters := by
    simp [GovernanceSettings.isTrusted]
  rw [hphrase, htrusted]
  constructor
  · intro h
    exact ⟨h.phrase, h.given, h.trusted⟩
  · rintro ⟨hphrase, hgiven, htrusted⟩
    exact ⟨hphrase, hgiven, htrusted⟩

section Wanted

variable {settings : GovernanceSettings} {cs : List Comment} {c : Comment}

/-- The comment that gives permission, if there is one: the one that decides, if it asks for CI as it must. -/
def wanted? (settings : GovernanceSettings) (cs : List Comment) : Option Comment :=
  (Comment.latest? cs).filter fun c => isCommand settings c && settings.isTrusted c.authorLogin

theorem wanted?_eq_some : wanted? settings cs = some c ↔ Comment.Decides cs c ∧ c.Commands settings := by
  rw [wanted?, Option.filter_eq_some_iff, Comment.latest?_eq_some, commands_iff, Bool.and_eq_true]

theorem skip_notes (number : Int) (reason : String) (more : LogFields) :
    Notes (do skip number reason more; return false : Act σ Bool) false :=
  Notes.bind (notes_record _ _ _) (notes_pure false)

theorem judge_of_unwanted (g : ResumeGate σ) (number : Int) (h : wanted? g.settings cs = none) :
    Notes (g.judge number cs) false := by
  unfold judge
  rcases hlatest : Comment.latest? cs with _ | c
  · exact skip_notes _ _ _
  · rw [wanted?, hlatest, Option.filter_eq_none_iff] at h
    have hnot := h c rfl
    by_cases hcommand : isCommand g.settings c = true
    · have htrusted : g.settings.isTrusted c.authorLogin = false := by simpa [hcommand] using hnot
      simp only [hcommand, htrusted, Bool.not_true, Bool.not_false, Bool.false_eq_true, if_false, if_true]
      exact skip_notes _ _ _
    · simp only [hcommand, Bool.not_false, if_true]
      exact skip_notes _ _ _

theorem judge_of_wanted (g : ResumeGate σ) (number : Int) (h : wanted? g.settings cs = some c) :
    g.judge number cs = g.consume number c := by
  obtain ⟨hlatest, hwanted⟩ := Option.filter_eq_some_iff.mp h
  obtain ⟨hcommand, htrusted⟩ := Bool.and_eq_true_iff.mp hwanted
  unfold judge
  simp [hlatest, hcommand, htrusted]

end Wanted

/-- A board from which the latest comment on a pull request was taken, which asked for CI as it must. -/
structure Taken (settings : GovernanceSettings) (number : Int) (B B' : CommentBoard) (c : Comment) : Prop where
  latest : Comment.Latest (B.on number) c
  commands : c.Commands settings
  deleted : B' = B.erase c.id

/-- What a call makes of a board, given what it answers. -/
structure Fair (settings : GovernanceSettings) (number : Int) (B B' : CommentBoard) (granted : Bool) : Prop where
  changed : B' ≠ B → ∃ c, Taken settings number B B' c
  earned : granted = true → ∃ c, Taken settings number B B' c

section Fair

variable {settings : GovernanceSettings} {number : Int} {B B' : CommentBoard} {granted : Bool}

theorem Taken.mem_ids {c : Comment} (h : Taken settings number B B' c) : c.id ∈ B.ids :=
  CommentBoard.mem_ids_of_mem_on h.latest.mem

theorem Fair.kept (h : Fair settings number B B' granted) : ∀ i ∈ B'.ids, i ∈ B.ids := by
  intro i hi
  by_cases hsame : B' = B
  · rw [← hsame]
    exact hi
  · obtain ⟨c, hc⟩ := h.changed hsame
    rw [hc.deleted] at hi
    exact (CommentBoard.mem_ids_erase.mp hi).1

theorem fair_of_no (B : CommentBoard) : Fair settings number B B false :=
  ⟨by simp, by simp⟩

end Fair

variable (h : g.host.KeepsBoard board)
include h

theorem consume_ends {number : Int} {B : CommentBoard} {c : Comment} (hlatest : Comment.Latest (B.on number) c)
    (hcommands : c.Commands g.settings) :
    Ends (fun w => board w = B) (g.consume number c) fun granted w => Fair g.settings number B (board w) granted := by
  have hmem := CommentBoard.mem_ids_of_mem_on hlatest.mem
  have htaken : ∃ c', Taken g.settings number B (B.erase c.id) c' := ⟨c, hlatest, hcommands, rfl⟩
  unfold consume
  refine Ends.bind (h.remove c.id B hmem).attempt fun answer => ?_
  cases answer with
  | error e =>
    refine Ends.bind (ends_record _ _ _) fun _ => ends_pure ?_
    rintro w (hw | ⟨-, hw⟩)
    · rw [hw]
      exact ⟨fun _ => htaken, by simp⟩
    · rw [hw]
      exact fair_of_no B
  | ok _ =>
    refine Ends.bind (ends_record _ _ _) fun _ => ends_pure ?_
    rintro w (hw | ⟨hrefused, -⟩)
    · rw [hw]
      exact ⟨fun _ => htaken, fun _ => htaken⟩
    · exact absurd rfl hrefused

theorem judge_ends {number : Int} {B : CommentBoard} {comments : List Comment} (hperm : comments.Perm (B.on number)) :
    Ends (fun w => board w = B) (g.judge number comments)
      fun granted w => Fair g.settings number B (board w) granted := by
  cases hwanted : wanted? g.settings comments with
  | none =>
    refine (judge_of_unwanted g number hwanted).ends ?_
    rintro w rfl
    exact fair_of_no _
  | some c =>
    obtain ⟨hdecides, hcommands⟩ := wanted?_eq_some.mp hwanted
    rw [judge_of_wanted g number hwanted]
    exact consume_ends h (hdecides.latest.perm hperm) hcommands

/-- A call ends with an answer. If it grants permission, it has deleted the latest comment, which asked for CI as it
must. -/
theorem shouldResume_ends (pr : PullRequest) (B : CommentBoard) :
    Ends (fun w => board w = B) (g.shouldResume pr)
      fun granted w => Fair g.settings pr.number B (board w) granted := by
  unfold shouldResume
  refine Ends.bind (h.collect pr.number B).attempt fun answer => ?_
  cases answer with
  | error e =>
    refine Ends.bind (ends_record _ _ _) fun _ => ends_pure ?_
    rintro w ⟨rfl, -⟩
    exact fair_of_no _
  | ok comments =>
    intro s d hd
    exact judge_ends h (hd.2 comments rfl) s d hd.1

omit h

/-! ## Histories -/

/-- A call, with the board before and after it. -/
structure Call where
  pr : PullRequest
  before : CommentBoard
  result : Except Failure Bool
  after : CommentBoard

def call (g : ResumeGate σ) (board : σ → CommentBoard) (pr : PullRequest) (s : Scope) (d : Desk σ) : Call :=
  ⟨pr, board d.world, (g.shouldResume pr s d).1, board (g.shouldResume pr s d).2.world⟩

/-- A call that took a comment from the board. -/
abbrev Call.Takes (settings : GovernanceSettings) (call : Call) (c : Comment) : Prop :=
  Taken settings call.pr.number call.before call.after c

/-- What may happen to a board, with the ids that were ever used and with the calls that were made. In between others
may change whatever they like, but a comment that was not on the board before has an id that was never used. -/
inductive History (g : ResumeGate σ) (board : σ → CommentBoard) : List Int → Desk σ → List Call → Prop where
  | start (d : Desk σ) : History g board (board d.world).ids d []
  | changed {used : List Int} {d : Desk σ} {calls : List Call} (past : History g board used d calls) (d' : Desk σ)
      (hids : ∀ i ∈ (board d'.world).ids, i ∈ (board d.world).ids ∨ i ∉ used) :
      History g board (used ++ (board d'.world).ids) d' calls
  | asked {used : List Int} {d : Desk σ} {calls : List Call} (past : History g board used d calls) (pr : PullRequest)
      (s : Scope) : History g board used (g.shouldResume pr s d).2 (calls ++ [g.call board pr s d])

variable {used : List Int} {d : Desk σ} {calls : List Call}

theorem History.added (past : g.History board used d calls) {number : Int} {c : Comment} (d' : Desk σ)
    (hnew : c.id ∉ (board d.world).ids) (hfresh : c.id ∉ used)
    (hd' : board d'.world = (board d.world).add number c hnew) :
    g.History board (used ++ (board d'.world).ids) d' calls := by
  refine past.changed d' fun i hi => ?_
  rw [hd'] at hi
  rcases List.mem_cons.mp hi with rfl | hi
  · exact .inr hfresh
  · exact .inl hi

theorem History.edited (past : g.History board used d calls) (i : Int) (body : String) (time : Stamp) (d' : Desk σ)
    (hd' : board d'.world = (board d.world).edit i body time) :
    g.History board (used ++ (board d'.world).ids) d' calls := by
  refine past.changed d' fun j hj => .inl ?_
  rw [hd', CommentBoard.ids_edit] at hj
  exact hj

theorem History.ids_used (h : g.host.KeepsBoard board) (past : g.History board used d calls) :
    ∀ i ∈ (board d.world).ids, i ∈ used := by
  induction past with
  | start d => exact fun _ hi => hi
  | changed past d' hids ih =>
    intro i hi
    exact List.mem_append.mpr (.inr hi)
  | @asked used d calls past pr s ih =>
    obtain ⟨granted, d', hend, hfair⟩ := shouldResume_ends h pr (board d.world) s d rfl
    rw [hend]
    intro i hi
    exact ih i (hfair.kept i hi)

/-- What a call took from the board never comes back. -/
theorem History.gone (h : g.host.KeepsBoard board) (past : g.History board used d calls) {call : Call}
    (hcall : call ∈ calls) {c : Comment} (htaken : call.Takes g.settings c) :
    c.id ∈ used ∧ c.id ∉ (board d.world).ids := by
  induction past with
  | start d => cases hcall
  | changed past d' hids ih =>
    obtain ⟨hused, hgone⟩ := ih hcall
    refine ⟨List.mem_append.mpr (.inl hused), fun hback => ?_⟩
    rcases hids _ hback with hold | hnew
    · exact hgone hold
    · exact hnew hused
  | @asked used d calls past pr s ih =>
    obtain ⟨granted, d', hend, hfair⟩ := shouldResume_ends h pr (board d.world) s d rfl
    rcases List.mem_append.mp hcall with hcall | hcall
    · obtain ⟨hused, hgone⟩ := ih hcall
      refine ⟨hused, fun hback => ?_⟩
      rw [hend] at hback
      exact hgone (hfair.kept _ hback)
    · obtain rfl := List.mem_singleton.mp hcall
      refine ⟨past.ids_used h _ htaken.mem_ids, ?_⟩
      have hdeleted : board (g.shouldResume pr s d).2.world = (board d.world).erase c.id := htaken.deleted
      rw [hdeleted, CommentBoard.mem_ids_erase]
      exact fun hback => hback.2 rfl

/-- **Permission is good for one time.** Whatever is written between the calls, each call ends with an answer. It
deletes nothing but a comment that gives permission, and grants permission only if it has done so. No two calls take
the same comment. -/
theorem permissions_one_shot (h : g.host.KeepsBoard board) (past : g.History board used d calls) :
    (∀ call ∈ calls, ∃ granted, call.result = .ok granted ∧ (granted = true → ∃ c, call.Takes g.settings c) ∧
        (call.after ≠ call.before → ∃ c, call.Takes g.settings c)) ∧
      calls.Pairwise fun earlier later => ∀ c c', earlier.Takes g.settings c → later.Takes g.settings c' →
        c.id ≠ c'.id := by
  induction past with
  | start d => simp
  | changed past d' hids ih => exact ih
  | @asked used d calls past pr s ih =>
    obtain ⟨hanswered, hapart⟩ := ih
    constructor
    · intro call hcall
      rcases List.mem_append.mp hcall with hcall | hcall
      · exact hanswered call hcall
      · obtain rfl := List.mem_singleton.mp hcall
        obtain ⟨granted, d', hend, hfair⟩ := shouldResume_ends h pr (board d.world) s d rfl
        have hcalled : g.call board pr s d = ⟨pr, board d.world, .ok granted, board d'.world⟩ := by
          rw [ResumeGate.call, hend]
        rw [hcalled]
        exact ⟨granted, rfl, hfair.earned, hfair.changed⟩
    · refine List.pairwise_append.mpr ⟨hapart, List.pairwise_singleton _ _, fun call hcall later hlater => ?_⟩
      obtain rfl := List.mem_singleton.mp hlater
      intro c c' htaken htaken' heq
      -- the later comment is on the board, from which the earlier one is gone
      exact (past.gone h hcall htaken).2 (heq ▸ htaken'.mem_ids)

/-- The gate of a repository with one trusted committer. -/
def aliceGate : ResumeGate MoodyBoard :=
  ⟨MoodyBoard.host, { trustedCommitters := ["alice"] }⟩

def ninth : PullRequest :=
  { number := 9, title := "" }

def remark (i : Int) (author body : String) : Comment :=
  ⟨i, author, body, default, default⟩

def aliceDesk : Desk MoodyBoard where
  world := {
    board := ⟨[(9, remark 2 "alice" " @apereocas-bot runci\n"), (9, remark 1 "mallory" "hello")], by decide⟩
    removals := [.refused, .done, .lost] }

def askedAgain : Desk MoodyBoard :=
  (aliceGate.shouldResume ninth {} (aliceGate.shouldResume ninth {} aliceDesk).2).2

/-- Mallory makes a phrase of the first comment, and alice writes another one. -/
def rewritten : Desk MoodyBoard where
  world := { askedAgain.world with board := askedAgain.world.board.edit 1 "@apereocas-bot runci" default }

def extended : Desk MoodyBoard where
  world := { rewritten.world with
    board := rewritten.world.board.add 9 (remark 3 "alice" "@apereocas-bot runci") (by decide +kernel) }

/-- The first removal is refused, the second one is done, and the third one is lost. -/
theorem permissions_one_shot_moody :
    ∃ used d calls, aliceGate.History MoodyBoard.board used d calls ∧
      calls.map (fun call => call.result.toOption) = [some false, some true, some false, some false] ∧
      (∀ call ∈ calls, ∃ granted, call.result = .ok granted ∧
        (granted = true → ∃ c, call.Takes aliceGate.settings c) ∧
        (call.after ≠ call.before → ∃ c, call.Takes aliceGate.settings c)) ∧
      calls.Pairwise fun earlier later => ∀ c c', earlier.Takes aliceGate.settings c →
        later.Takes aliceGate.settings c' → c.id ≠ c'.id := by
  have begun : aliceGate.History MoodyBoard.board [2, 1] aliceDesk [] := .start aliceDesk
  have asked := (begun.asked ninth {}).asked ninth {}
  have changed := asked.edited 1 "@apereocas-bot runci" default rewritten rfl
  have more := changed.added extended (by decide +kernel) (by decide +kernel) rfl
  have past := (more.asked ninth {}).asked ninth {}
  exact ⟨_, _, _, past, by decide +kernel, permissions_one_shot MoodyBoard.host_keepsBoard past⟩

end ResumeGate

end RunSteward
