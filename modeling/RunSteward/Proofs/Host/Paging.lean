import RunSteward.Host
import RunSteward.Proofs.Act.Paired

/-!
# Pages of listings

Whoever walks through a listing fetches one page after another, each at the place that the page before it names, up
to the last page or to a page that is refused (`Host.Chain`). Collecting a listing fetches the whole chain
(`Shows.collect`). Taking items from it fetches as many pages as they need and no further one (`Shows.draw`).
-/

namespace RunSteward

open Act

variable {σ τ α ε : Type}

/-! ## Chains of pages -/

/-- A page that was asked for at a place: the desks before and after, and the answer. -/
structure Fetch (σ : Type) (l : Listing) where
  cursor : Option Cursor
  before : Desk σ
  answer : Except HostError (Page l.Item)
  after : Desk σ

namespace Fetch

variable {l : Listing}

/-- The items that came with the page; a refused page has none. -/
def items (f : Fetch σ l) : List l.Item :=
  match f.answer with
  | .ok page => page.items
  | .error _ => []

def listed (fetches : List (Fetch σ l)) : List l.Item :=
  fetches.flatMap items

/-- The pages that came, without a refused one. -/
def shown (fetches : List (Fetch σ l)) : List (List l.Item) :=
  fetches.filterMap fun f => f.answer.toOption.map Page.items

theorem listed_eq (fetches : List (Fetch σ l)) : listed fetches = (shown fetches).flatten := by
  induction fetches with
  | nil => rfl
  | cons f fs ih =>
    rw [listed, List.flatMap_cons, ← listed, ih]
    obtain ⟨cursor, before, e | page, after⟩ := f <;> rfl

theorem listed_congr {fetches : List (Fetch σ l)} {fetches' : List (Fetch τ l)}
    (h : fetches.map items = fetches'.map items) : listed fetches = listed fetches' := by
  rw [listed, listed, List.flatMap_def, List.flatMap_def, h]

/-- The desk that pages are left at, one after another. -/
def reached (d : Desk σ) : List (Fetch σ l) → Desk σ
  | [] => d
  | f :: fs => reached f.after fs

end Fetch

/-- The pages of a listing from a place on, each at the place that the page before names. They end with the last one, or
with one that is refused. -/
inductive Host.Chain (host : Host σ) (l : Listing) (s : Scope) :
    Option Cursor → Desk σ → List (Fetch σ l) → Option HostError → Prop where
  | refused {cursor : Option Cursor} {d d' : Desk σ} {e : HostError}
      (hpage : host.page l cursor s d = (.error (.host e), d')) :
      Chain host l s cursor d [⟨cursor, d, .error e, d'⟩] (some e)
  | last {cursor : Option Cursor} {d d' : Desk σ} {items : List l.Item}
      (hpage : host.page l cursor s d = (.ok ⟨items, none⟩, d')) :
      Chain host l s cursor d [⟨cursor, d, .ok ⟨items, none⟩, d'⟩] none
  | further {cursor : Option Cursor} {d d' : Desk σ} {items : List l.Item} {next : Cursor}
      {fetches : List (Fetch σ l)} {error : Option HostError}
      (hpage : host.page l cursor s d = (.ok ⟨items, some next⟩, d'))
      (hrest : Chain host l s (some next) d' fetches error) :
      Chain host l s cursor d (⟨cursor, d, .ok ⟨items, some next⟩, d'⟩ :: fetches) error

/-- What a host shows of a listing from a desk on: the pages from the first one to the end, within its page limit. -/
structure Host.Shows (host : Host σ) (l : Listing) (s : Scope) (d : Desk σ) (fetches : List (Fetch σ l))
    (error : Option HostError) : Prop where
  chain : host.Chain l s none d fetches error
  fits : fetches.length ≤ host.pageLimit

/-! ## The pages that are needed -/

/-- Of a row of pages the first `m` are needed for `n` items: at least one, and as few as hold them, or all if no number
of them does. -/
structure Needed (pages : List (List α)) (n m : Nat) : Prop where
  first : 1 ≤ m
  within : m ≤ pages.length
  least : ∀ j, 1 ≤ j → j < m → (pages.take j).flatten.length < n
  enough : n ≤ (pages.take m).flatten.length ∨ m = pages.length

theorem needed_only (page : List α) (n : Nat) : Needed [page] n 1 :=
  ⟨Nat.le_refl 1, Nat.le_refl 1, fun j hj hj' => by omega, .inr rfl⟩

theorem needed_first {page : List α} (pages : List (List α)) {n : Nat} (h : n ≤ page.length) :
    Needed (page :: pages) n 1 :=
  ⟨Nat.le_refl 1, by simp, fun j hj hj' => by omega, .inl (by simpa using h)⟩

/-- If the first page does not hold all items, the pages after it have to hold the others. -/
theorem Needed.cons {page : List α} {pages : List (List α)} {n m : Nat} (hpage : page.length < n)
    (h : Needed pages (n - page.length) m) : Needed (page :: pages) n (m + 1) where
  first := by omega
  within := Nat.succ_le_succ h.within
  least := by
    intro j hj hj'
    obtain ⟨i, rfl⟩ := Nat.exists_eq_add_one.mpr hj
    rw [List.take_succ_cons, List.flatten_cons, List.length_append]
    rcases Nat.eq_zero_or_pos i with rfl | hi
    · simpa using hpage
    · have hleast := h.least i hi (by omega)
      omega
  enough := by
    rw [List.take_succ_cons, List.flatten_cons, List.length_append, List.length_cons]
    rcases h.enough with henough | hall
    · exact .inl (by omega)
    · exact .inr (by omega)

theorem Needed.unique {pages : List (List α)} {n m m' : Nat} (h : Needed pages n m) (h' : Needed pages n m') :
    m = m' := by
  -- fewer pages than are needed do not hold enough items
  have hnot : ∀ {m m' : Nat}, Needed pages n m → Needed pages n m' → ¬m < m' := by
    intro m m' h h' hlt
    have hless := h'.least m h.first hlt
    have hwithin := h'.within
    rcases h.enough with henough | hall <;> omega
  exact Nat.le_antisymm (Nat.not_lt.mp (hnot h' h)) (Nat.not_lt.mp (hnot h h'))

namespace Host

variable {host : Host σ} {l : Listing} {s : Scope} {cursor : Option Cursor} {d d' : Desk σ}
  {fetches : List (Fetch σ l)} {error : Option HostError}

open Fetch

/-! ## Fetching all pages -/

theorem Chain.ne_nil (h : host.Chain l s cursor d fetches error) : fetches ≠ [] := by
  cases h <;> simp

theorem Chain.fetched (h : host.Chain l s cursor d fetches error) {f : Fetch σ l} (hf : f ∈ fetches) :
    host.page l f.cursor s f.before = (f.answer.mapError Failure.host, f.after) := by
  induction h with
  | refused hpage =>
    obtain rfl := List.mem_singleton.mp hf
    exact hpage
  | last hpage =>
    obtain rfl := List.mem_singleton.mp hf
    exact hpage
  | further hpage hrest ih =>
    rcases List.mem_cons.mp hf with rfl | hf
    · exact hpage
    · exact ih hf

theorem Chain.reached_first (h : host.Chain l s cursor d fetches error) :
    reached d (fetches.take 1) = (host.page l cursor s d).2 := by
  cases h with
  | refused hpage => rw [hpage]; rfl
  | last hpage => rw [hpage]; rfl
  | further hpage hrest => rw [hpage]; rfl

theorem Chain.gatherFrom (h : host.Chain l s cursor d fetches error) {limit : Nat} (hlimit : fetches.length ≤ limit) :
    host.gatherFrom l limit cursor s d = (.ok (listed fetches, error), reached d fetches) := by
  induction h generalizing limit with
  | refused hpage =>
    obtain ⟨limit, rfl⟩ := Nat.exists_eq_add_one.mpr hlimit
    exact bind_of_ok _ (attempt_of_refusal hpage)
  | last hpage =>
    obtain ⟨limit, rfl⟩ := Nat.exists_eq_add_one.mpr hlimit
    rw [Host.gatherFrom, bind_of_ok _ (attempt_of_ok hpage)]
    simp [listed, Fetch.items, reached]
  | further hpage hrest ih =>
    obtain ⟨limit, rfl⟩ := Nat.exists_eq_add_one.mpr (Nat.lt_of_lt_of_le (Nat.zero_lt_succ _) hlimit)
    rw [Host.gatherFrom, bind_of_ok _ (attempt_of_ok hpage)]
    exact bind_of_ok _ (ih (Nat.le_of_succ_le_succ hlimit))

theorem exists_chain {limit : Nat} {items : List l.Item}
    (h : host.gatherFrom l limit cursor s d = (.ok (items, error), d')) :
    ∃ fetches, host.Chain l s cursor d fetches error ∧ fetches.length ≤ limit ∧ items = listed fetches ∧
      d' = reached d fetches := by
  induction limit generalizing cursor d items with
  | zero => cases congrArg Prod.fst h
  | succ limit ih =>
    obtain ⟨answer, d₁, hpage, hrest⟩ := ok_of_bind h
    rw [attempt_eq_ok] at hpage
    rcases answer with e | ⟨first, _ | next⟩
    · cases hrest
      exact ⟨_, .refused hpage, by simp, rfl, rfl⟩
    · cases hrest
      exact ⟨_, .last hpage, by simp, by simp [listed, Fetch.items], rfl⟩
    · obtain ⟨⟨more, error'⟩, d₂, hmore, hend⟩ := ok_of_bind hrest
      cases hend
      obtain ⟨fetches, hchain, hlength, rfl, rfl⟩ := ih hmore
      exact ⟨_, .further hpage hchain, Nat.succ_le_succ hlength, rfl, rfl⟩

/-- How a walk ends that came to some items, and perhaps to an error behind them. -/
def ended (items : List α) : Option HostError → Except Failure (List α)
  | none => .ok items
  | some e => .error (.host e)

theorem collect_of_gather {items : List l.Item} (h : host.gather l s d = (.ok (items, error), d')) :
    host.collect l s d = (ended items error, d') := by
  rw [collect, bind_of_ok _ h]
  cases error <;> rfl

theorem Shows.gather (h : host.Shows l s d fetches error) :
    host.gather l s d = (.ok (listed fetches, error), reached d fetches) :=
  h.chain.gatherFrom h.fits

theorem Shows.collect (h : host.Shows l s d fetches error) :
    host.collect l s d = (ended (listed fetches) error, reached d fetches) :=
  collect_of_gather h.gather

/-! ## Fetching the pages that are needed -/

/-- The first items from a place on: a page is fetched, and then those behind it that are needed. -/
def drawFrom (host : Host σ) (l : Listing) (limit count : Nat) (cursor : Option Cursor) :
    Act σ (List l.Item × Option HostError) := do
  match ← attempt (host.page l cursor) with
  | .error e => return ([], some e)
  | .ok page => host.takeFrom l limit count page

theorem takeFrom_further {limit count : Nat} {items : List l.Item} {next : Cursor} (h : items.length < count) :
    host.takeFrom l (limit + 1) count ⟨items, some next⟩ = do
      let (more, error) ← host.drawFrom l limit (count - items.length) (some next)
      return (items ++ more, error) := by
  funext s d
  simp only [takeFrom, if_neg (Nat.not_le.mpr h), drawFrom, bind_assoc]
  rcases hpage : host.page l (some next) s d with ⟨(e | f) | page, d'⟩
  · rw [bind_of_ok _ (attempt_of_refusal hpage), bind_of_ok _ (attempt_of_refusal hpage)]
    simp
  · rw [bind_of_error _ (attempt_of_fault hpage), bind_of_error _ (attempt_of_fault hpage)]
  · rw [bind_of_ok _ (attempt_of_ok hpage), bind_of_ok _ (attempt_of_ok hpage)]

theorem Chain.drawFrom (h : host.Chain l s cursor d fetches error) {limit : Nat} (hlimit : fetches.length ≤ limit)
    (count : Nat) :
    ∃ m, Needed (fetches.map Fetch.items) count m ∧ host.drawFrom l limit count cursor s d =
      (.ok ((listed fetches).take count, if m = fetches.length then error else none),
        reached d (fetches.take m)) := by
  -- by induction on the chain: a first page that holds all items that are wanted leaves the rest of it alone
  induction h generalizing limit count with
  | refused hpage =>
    refine ⟨1, needed_only _ _, (bind_of_ok _ (attempt_of_refusal hpage)).trans ?_⟩
    simp [listed, Fetch.items, reached]
  | @last cursor d d' items hpage =>
    obtain ⟨limit, rfl⟩ := Nat.exists_eq_add_one.mpr hlimit
    refine ⟨1, needed_only _ _, (bind_of_ok _ (attempt_of_ok hpage)).trans ?_⟩
    simp only [takeFrom]
    by_cases hcount : count ≤ items.length
    · simp [hcount, listed, Fetch.items, reached]
    · simp [hcount, listed, Fetch.items, reached, List.take_of_length_le (Nat.le_of_not_le hcount)]
  | @further cursor d d' items next fetches error hpage hrest ih =>
    obtain ⟨limit, rfl⟩ := Nat.exists_eq_add_one.mpr (Nat.lt_of_lt_of_le (Nat.zero_lt_succ _) hlimit)
    by_cases hcount : count ≤ items.length
    · refine ⟨1, needed_first _ hcount, (bind_of_ok _ (attempt_of_ok hpage)).trans ?_⟩
      have hmore : 1 ≠ (fetches.length + 1) := by
        have hpos := List.length_pos_iff.mpr hrest.ne_nil
        omega
      simp only [takeFrom, if_pos hcount, List.length_cons, if_neg hmore]
      simp [listed, Fetch.items, reached, List.take_append_of_le_length hcount]
    · have hcount := Nat.not_le.mp hcount
      obtain ⟨m, hneeded, hdraw⟩ := ih (Nat.le_of_succ_le_succ hlimit) (count - items.length)
      refine ⟨m + 1, hneeded.cons hcount, (bind_of_ok _ (attempt_of_ok hpage)).trans ?_⟩
      dsimp only
      rw [takeFrom_further hcount, bind_of_ok _ hdraw]
      simp [listed, Fetch.items, reached, List.take_append, List.take_of_length_le (Nat.le_of_lt hcount)]

theorem Shows.draw (h : host.Shows l s d fetches error) (count : Nat) :
    ∃ m, Needed (fetches.map Fetch.items) count m ∧ host.drawFrom l host.pageLimit count none s d =
      (.ok ((listed fetches).take count, if m = fetches.length then error else none),
        reached d (fetches.take m)) :=
  h.chain.drawFrom h.fits count

theorem take_of_draw {count : Nat} {items : List l.Item}
    (h : host.drawFrom l host.pageLimit count none s d = (.ok (items, error), d')) :
    host.take l count s d = (ended items error, d') := by
  obtain ⟨answer, d₁, hpage, hrest⟩ := ok_of_bind h
  rw [attempt_eq_ok] at hpage
  cases answer with
  | error e =>
    cases hrest
    exact bind_of_error _ hpage
  | ok first =>
    rw [take, bind_of_ok _ hpage, bind_of_ok _ hrest]
    cases error <;> rfl

theorem takeFrom_of_draw {limit count : Nat} {first : Page l.Item} {d₁ : Desk σ}
    {result : Except Failure (List l.Item × Option HostError) × Desk σ} (hfirst : host.page l cursor s d = (.ok first, d₁))
    (h : host.drawFrom l limit count cursor s d = result) : host.takeFrom l limit count first s d₁ = result :=
  (bind_of_ok _ (attempt_of_ok hfirst)).symm.trans h

/-! ## Two walks through a listing -/

/-- If another host answers alike, it shows the same pages. What each page leaves behind at the other host adds up. -/
theorem Chain.follow (host' : Host τ) {R : Desk σ → Desk τ → Prop} (note : Desk τ → List ε)
    (left : Fetch σ l → List ε)
    (hpage : ∀ cursor answer d d' D, R d D → host.page l cursor s d = (Except.mapError Failure.host answer, d') →
      ∃ D', host'.page l cursor s D = (Except.mapError Failure.host answer, D') ∧ R d' D' ∧
        note D' = note D ++ left ⟨cursor, d, answer, d'⟩)
    (h : host.Chain l s cursor d fetches error) {D : Desk τ} (hR : R d D) :
    ∃ fetches', host'.Chain l s cursor D fetches' error ∧
      fetches'.map Fetch.items = fetches.map Fetch.items ∧
      ∀ m, R (reached d (fetches.take m)) (reached D (fetches'.take m)) ∧
        note (reached D (fetches'.take m)) = note D ++ (fetches.take m).flatMap left := by
  induction h generalizing D with
  | @refused cursor d d' e hend =>
    obtain ⟨D', hend', hR', hnote⟩ := hpage cursor (.error e) d d' D hR hend
    refine ⟨_, .refused hend', rfl, fun m => ?_⟩
    cases m with
    | zero => simpa [reached] using hR
    | succ m => simpa [reached] using ⟨hR', hnote⟩
  | @last cursor d d' items hend =>
    obtain ⟨D', hend', hR', hnote⟩ := hpage cursor (.ok _) d d' D hR hend
    refine ⟨_, .last hend', rfl, fun m => ?_⟩
    cases m with
    | zero => simpa [reached] using hR
    | succ m => simpa [reached] using ⟨hR', hnote⟩
  | @further cursor d d' items next fetches error hend hrest ih =>
    obtain ⟨D', hend', hR', hnote⟩ := hpage cursor (.ok _) d d' D hR hend
    obtain ⟨fetches', hchain, hitems, hfront⟩ := ih hR'
    refine ⟨_, .further hend' hchain, by simp [hitems, Fetch.items], fun m => ?_⟩
    cases m with
    | zero => simpa [reached] using hR
    | succ m =>
      obtain ⟨hreached, hmore⟩ := hfront m
      refine ⟨hreached, hmore.trans ?_⟩
      rw [hnote, List.take_succ_cons, List.flatMap_cons, List.append_assoc]

theorem gatherFrom_alike {R : Desk σ → Desk τ → Prop} {host : Host σ} {host' : Host τ} {listing : Listing}
    (hpage : ∀ cursor, Alike R (host.page listing cursor) (host'.page listing cursor)) (limit : Nat)
    (cursor : Option Cursor) :
    Alike R (host.gatherFrom listing limit cursor) (host'.gatherFrom listing limit cursor) := by
  induction limit generalizing cursor with
  | zero => exact alike_fail _
  | succ limit ih =>
    refine Alike.bind (hpage cursor).attempt fun answer => ?_
    rcases answer with e | ⟨items, _ | next⟩
    · exact alike_pure _
    · exact alike_pure _
    · exact Alike.bind (ih (some next)) fun rest => alike_pure _

theorem gather_alike {R : Desk σ → Desk τ → Prop} {host : Host σ} {host' : Host τ} {listing : Listing}
    (hlimit : host'.pageLimit = host.pageLimit)
    (hpage : ∀ cursor, Alike R (host.page listing cursor) (host'.page listing cursor)) :
    Alike R (host.gather listing) (host'.gather listing) := by
  unfold gather
  rw [hlimit]
  exact gatherFrom_alike hpage _ _

/-! ## Pages that are laid out -/

/-- What is shown of pages that are laid out beforehand, each to be shown or refused: those before the first one that is
refused, with its error. -/
def outcome : List (Except HostError (List α)) → List (List α) × Option HostError
  | [] => ([], none)
  | .error e :: _ => ([], some e)
  | .ok items :: pages => (items :: (outcome pages).1, (outcome pages).2)

/-- The page at a place where pages are laid out. Places are told apart by their lengths. -/
def laidOut (pages : List (Except HostError (List α))) (cursor : Option Cursor) : Except HostError (Page α) :=
  let place := cursor.elim 0 String.length
  match pages.drop place with
  | [] => .error ⟨.notFound, "no page"⟩
  | page :: more => page.map (⟨·, if more.isEmpty then none else some (String.ofList (.replicate (place + 1) '+'))⟩)

theorem chain_laidOut {pages : List (Except HostError (List l.Item))}
    (hpage : ∀ cursor d, host.page l cursor s d = ((laidOut pages cursor).mapError Failure.host, d))
    {page : Except HostError (List l.Item)} {more : List (Except HostError (List l.Item))}
    (hplace : pages.drop (cursor.elim 0 String.length) = page :: more) (d : Desk σ) :
    ∃ fetches, host.Chain l s cursor d fetches (outcome (page :: more)).2 ∧
      shown fetches = (outcome (page :: more)).1 ∧ fetches.length ≤ more.length + 1 := by
  induction more generalizing cursor page with
  | nil =>
    have hend := hpage cursor d
    rcases page with e | items
    · simp only [laidOut, hplace] at hend
      exact ⟨_, .refused hend, rfl, by simp⟩
    · simp only [laidOut, hplace] at hend
      exact ⟨_, .last hend, rfl, by simp⟩
  | cons next more ih =>
    have hend := hpage cursor d
    rcases page with e | items
    · simp only [laidOut, hplace] at hend
      exact ⟨_, .refused hend, rfl, by simp⟩
    · simp only [laidOut, hplace] at hend
      have hnext : pages.drop ((some (String.ofList (.replicate (cursor.elim 0 String.length + 1) '+'))).elim 0
          String.length) = next :: more := by
        simp [← List.drop_drop, hplace]
      obtain ⟨fetches, hchain, hshown, hlength⟩ := ih hnext
      exact ⟨_, .further hend hchain, congrArg (items :: ·) hshown, Nat.succ_le_succ hlength⟩

theorem shows_laidOut {pages : List (Except HostError (List l.Item))} (hne : pages ≠ [])
    (hpage : ∀ cursor d, host.page l cursor s d = ((laidOut pages cursor).mapError Failure.host, d))
    (hlimit : pages.length ≤ host.pageLimit) (d : Desk σ) :
    ∃ fetches, host.Shows l s d fetches (outcome pages).2 ∧ shown fetches = (outcome pages).1 := by
  obtain ⟨page, more, rfl⟩ := List.exists_cons_of_ne_nil hne
  have hplace : (page :: more).drop ((none : Option Cursor).elim 0 String.length) = page :: more := rfl
  obtain ⟨fetches, hchain, hshown, hlength⟩ := chain_laidOut hpage hplace d
  exact ⟨fetches, ⟨hchain, Nat.le_trans hlength hlimit⟩, hshown⟩

/-- A host that shows pages which are laid out beforehand, no more than eight of a listing. It has nothing else, and
grants
every request. -/
def ofPages (pages : ∀ l : Listing, List (Except HostError (List l.Item))) : Host Unit where
  page l cursor := orRefuse (laidOut (pages l) cursor)
  pullRequest _ := pure none
  commit sha := pure ⟨sha, "", ""⟩
  checkRuns _ := pure []
  combinedStatus sha := pure ⟨"", sha, []⟩
  runsPage _ _ := pure []
  fileText _ _ := pure ""
  removeComment _ := pure ()
  createCheckRun _ := pure true
  createStatus _ := pure true
  cancelRun _ := pure ()
  removeRun _ := pure ()
  updateBranch pr := pure pr
  merge _ _ := pure true
  addLabel _ _ := pure ()
  removeLabel _ _ := pure ()
  addComment _ _ := pure ()
  close _ := pure ()
  pageLimit := 8

theorem ofPages_shows (pages : ∀ l : Listing, List (Except HostError (List l.Item))) (l : Listing) (hne : pages l ≠ [])
    (hlimit : (pages l).length ≤ 8) (s : Scope) (d : Desk Unit) :
    ∃ fetches, (ofPages pages).Shows l s d fetches (outcome (pages l)).2 ∧ shown fetches = (outcome (pages l)).1 := by
  refine shows_laidOut hne (fun cursor d => ?_) hlimit d
  change orRefuse (laidOut (pages l) cursor) s d = _
  cases laidOut (pages l) cursor <;> rfl

end Host

end RunSteward
