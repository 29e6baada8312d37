import Mathlib.Data.List.Nodup
import RunSteward.Host
import RunSteward.Proofs.Act.Ending

/-!
# Boards of comments

A host that behaves keeps the comments on its pull requests on a board: each comment once, by its id
(`CommentBoard`). A listing shows the comments on a pull request page by page, in any order, and a request to remove
a comment deletes it or is refused; a refused one may have deleted it all the same (`Host.KeepsBoard`). Unless a page
is refused, collecting the comments on a pull request gives all of them (`Host.KeepsBoard.collect`).
-/

namespace RunSteward

open Act

variable {σ α : Type}

/-! ## Pages -/

/-- The items on the pages from a place on, if these come to an end within a number of pages. -/
def Page.walk (pages : Option Cursor → Page α) : Nat → Option Cursor → Option (List α)
  | 0, _ => none
  | limit + 1, cursor =>
    match (pages cursor).next with
    | none => some (pages cursor).items
    | some next => (walk pages limit (some next)).map ((pages cursor).items ++ ·)

namespace Host

variable {host : Host σ} {l : Listing} {P : σ → Prop} {pages : Option Cursor → Page l.Item}

theorem gatherFrom_walk
    (hpage : ∀ cursor, Answers P (host.page l cursor) fun r w => P w ∧ ∀ page, r = .ok page → page = pages cursor)
    {limit : Nat} {cursor : Option Cursor} {items : List l.Item} (hwalk : Page.walk pages limit cursor = some items) :
    Ends P (host.gatherFrom l limit cursor) fun gathered w => P w ∧ (gathered.2 = none → gathered.1 = items) := by
  induction limit generalizing cursor items with
  | zero => cases hwalk
  | succ limit ih =>
    rw [gatherFrom]
    refine Ends.bind (hpage cursor).attempt fun answer => ?_
    rintro s d ⟨hP, hanswer⟩
    rw [Page.walk] at hwalk
    rcases answer with e | page
    · exact ⟨_, d, rfl, hP, by simp⟩
    · obtain rfl := hanswer page rfl
      dsimp only
      rcases hnext : (pages cursor).next with _ | next <;> rw [hnext] at hwalk
      · exact ⟨_, d, rfl, hP, fun _ => Option.some.inj hwalk⟩
      · obtain ⟨rest, hrest, rfl⟩ := Option.map_eq_some_iff.mp hwalk
        obtain ⟨gathered, d', hgather, hP', hgathered⟩ := ih hrest s d hP
        exact ⟨_, d', bind_of_ok _ hgather, hP', fun hcomplete => congrArg _ (hgathered hcomplete)⟩

theorem collect_walk
    (hpage : ∀ cursor, Answers P (host.page l cursor) fun r w => P w ∧ ∀ page, r = .ok page → page = pages cursor)
    {items : List l.Item} (hwalk : Page.walk pages host.pageLimit none = some items) :
    Answers P (host.collect l) fun r w => P w ∧ ∀ collected, r = .ok collected → collected = items := by
  intro s d hd
  obtain ⟨⟨collected, _ | e⟩, d', hgather, hP, hcomplete⟩ := gatherFrom_walk hpage hwalk s d hd
  · refine ⟨.ok collected, d', bind_of_ok _ hgather, hP, ?_⟩
    rintro _ ⟨⟩
    exact hcomplete rfl
  · exact ⟨.error e, d', bind_of_ok _ hgather, hP, by simp⟩

end Host

/-! ## Boards -/

/-- The comments of a repository, each with the number of its pull request. No two comments have the same id. -/
structure CommentBoard where
  posts : List (Int × Comment)
  ids_nodup : (posts.map fun p => p.2.id).Nodup

namespace CommentBoard

variable (B : CommentBoard)

def ids : List Int :=
  B.posts.map fun p => p.2.id

/-- The comments on a pull request. -/
def on (number : Int) : List Comment :=
  (B.posts.filter fun p => p.1 == number).map Prod.snd

def erase (i : Int) : CommentBoard where
  posts := B.posts.filter fun p => p.2.id != i
  ids_nodup := B.ids_nodup.sublist (List.filter_sublist.map _)

def add (number : Int) (c : Comment) (hnew : c.id ∉ B.ids) : CommentBoard where
  posts := (number, c) :: B.posts
  ids_nodup := List.nodup_cons.mpr ⟨hnew, B.ids_nodup⟩

/-- A post after somebody gave the comment of an id another text. -/
def reworded (i : Int) (body : String) (time : Stamp) (p : Int × Comment) : Int × Comment :=
  if p.2.id = i then (p.1, { p.2 with body := body, updatedAt := time }) else p

theorem reworded_id (i : Int) (body : String) (time : Stamp) (p : Int × Comment) :
    (reworded i body time p).2.id = p.2.id := by
  unfold reworded
  by_cases h : p.2.id = i <;> simp [h]

def edit (i : Int) (body : String) (time : Stamp) : CommentBoard where
  posts := B.posts.map (reworded i body time)
  ids_nodup := by
    simp only [List.map_map, Function.comp_def, reworded_id]
    exact B.ids_nodup

variable {B} {i j : Int} {c : Comment}

theorem mem_ids_of_mem_on {number : Int} (h : c ∈ B.on number) : c.id ∈ B.ids := by
  obtain ⟨p, hp, rfl⟩ := List.mem_map.mp h
  exact List.mem_map.mpr ⟨p, (List.mem_filter.mp hp).1, rfl⟩

theorem mem_ids_erase : j ∈ (B.erase i).ids ↔ j ∈ B.ids ∧ j ≠ i := by
  simp only [ids, erase, List.mem_map, List.mem_filter, bne_iff_ne]
  constructor
  · rintro ⟨p, ⟨hp, hne⟩, rfl⟩
    exact ⟨⟨p, hp, rfl⟩, hne⟩
  · rintro ⟨⟨p, hp, rfl⟩, hne⟩
    exact ⟨p, ⟨hp, hne⟩, rfl⟩

theorem ids_edit (body : String) (time : Stamp) : (B.edit i body time).ids = B.ids := by
  simp [ids, edit, Function.comp_def, reworded_id]

end CommentBoard

/-! ## Hosts with a board -/

/-- A host that keeps a board of comments. Nothing is said about the removal of a comment that is not there. -/
structure Host.KeepsBoard (host : Host σ) (board : σ → CommentBoard) : Prop where
  listing : ∀ number B, ∃ pages comments, Page.walk pages host.pageLimit none = some comments ∧
    comments.Perm (B.on number) ∧ ∀ cursor, Answers (fun w => board w = B) (host.page (.comments number) cursor)
      fun r w => board w = B ∧ ∀ page, r = .ok page → page = pages cursor
  remove : ∀ i B, i ∈ B.ids → Answers (fun w => board w = B) (host.removeComment i)
    fun r w => board w = B.erase i ∨ (r ≠ .ok () ∧ board w = B)

theorem Host.KeepsBoard.collect {host : Host σ} {board : σ → CommentBoard} (h : host.KeepsBoard board) (number : Int)
    (B : CommentBoard) : Answers (fun w => board w = B) (host.collect (.comments number))
      fun r w => board w = B ∧ ∀ comments, r = .ok comments → comments.Perm (B.on number) := by
  obtain ⟨pages, comments, hwalk, hperm, hpage⟩ := h.listing number B
  refine (Host.collect_walk (l := .comments number) hpage hwalk).mono (fun _ hw => hw) fun r w hr => ⟨hr.1, ?_⟩
  intro collected hcollected
  rw [hr.2 collected hcollected]
  exact hperm

/-! ## A board as a host -/

/-- How a request to remove a comment ends. A lost one deletes the comment and is refused. -/
inductive Removal where
  | done
  | refused
  | lost

/-- A board, with the ends of the requests to come. -/
structure MoodyBoard where
  board : CommentBoard
  removals : List Removal := []

namespace MoodyBoard

def refusal : HostError :=
  ⟨.transient, "try again"⟩

def remove (i : Int) (w : MoodyBoard) : Except HostError Unit × MoodyBoard :=
  match w.removals with
  | .refused :: rest => (.error refusal, ⟨w.board, rest⟩)
  | .lost :: rest => (.error refusal, ⟨w.board.erase i, rest⟩)
  | .done :: rest => (.ok (), ⟨w.board.erase i, rest⟩)
  | [] => (.ok (), ⟨w.board.erase i, []⟩)

/-- A host that shows the comments on one page, and has nothing else. -/
def host : Host MoodyBoard where
  page
    | .comments number, _ => outside fun w => (⟨w.board.on number, none⟩, w)
    | _, _ => refuse refusal
  pullRequest _ := refuse refusal
  commit _ := refuse refusal
  checkRuns _ := refuse refusal
  combinedStatus _ := refuse refusal
  runsPage _ _ := refuse refusal
  fileText _ _ := refuse refusal
  removeComment i := outside (remove i) >>= orRefuse
  createCheckRun _ := refuse refusal
  createStatus _ := refuse refusal
  cancelRun _ := refuse refusal
  removeRun _ := refuse refusal
  updateBranch _ := refuse refusal
  merge _ _ := refuse refusal
  addLabel _ _ := refuse refusal
  removeLabel _ _ := refuse refusal
  addComment _ _ := refuse refusal
  close _ := refuse refusal
  pageLimit := 1

theorem host_keepsBoard : host.KeepsBoard MoodyBoard.board where
  listing number B := by
    refine ⟨fun _ => ⟨B.on number, none⟩, B.on number, rfl, .refl _, fun cursor => ?_⟩
    rintro s d rfl
    refine ⟨.ok ⟨d.world.board.on number, none⟩, d, rfl, rfl, ?_⟩
    rintro page ⟨⟩
    rfl
  remove i B _ := by
    rintro s ⟨⟨board, removals⟩, log⟩ rfl
    rcases removals with _ | ⟨_ | _ | _, rest⟩
    · exact ⟨.ok (), _, rfl, .inl rfl⟩
    · exact ⟨.ok (), _, rfl, .inl rfl⟩
    · exact ⟨.error refusal, _, rfl, .inr ⟨by simp, rfl⟩⟩
    · exact ⟨.error refusal, _, rfl, .inl rfl⟩

end MoodyBoard

end RunSteward
