import RunSteward.Gateway.Link
import RunSteward.Proofs.Text.Blank
import RunSteward.Proofs.Text.Span

/-!
# Link headers

A header may name any number of links, each with its relation (`Link.Entry`). The place of the next page is the path and
the query of the first one that leads there, as they are written, whatever other links stand around it
(`Link.next_header`).
-/

namespace RunSteward

/-- Tells that none of some characters stands in a text. -/
def Text.Free (marks s : List Char) : Prop :=
  ∀ c ∈ marks, c ∉ s

namespace Text.Free

variable {marks more s : List Char} {c d : Char}

instance (marks s : List Char) : Decidable (Text.Free marks s) :=
  List.decidableBAll _ marks

theorem append_iff : Text.Free (marks ++ more) s ↔ Text.Free marks s ∧ Text.Free more s := by
  simp [Text.Free, or_imp, forall_and]

theorem ne (h : Text.Free marks s) (hd : d ∈ marks) (hc : c ∈ s) : c ≠ d := by
  rintro rfl
  exact h c hd hc

end Text.Free

namespace Link

/-! ## What a header is made of -/

/-- Characters that stand in no part of an address. -/
def outerMarks : List Char :=
  ['<', '>', '#', '\t', '\r', '\n']

/-- A link as a header names it: an address in angle brackets, and its relation in quotes behind a semicolon. Blanks may
stand before it and around the semicolon. A host may hold any character that does not delimit it, enclose it or stand
for
such a character in another shape (`plain_host`). -/
structure Entry where
  host : List Char
  path : List Char
  query : List Char
  relation : List Char
  gap : List Char := []
  before : List Char := []
  after : List Char := []
  host_free : Text.Free (outerMarks ++ ['/', '?', '[', ']']) host := by decide
  host_undisguised : host.any Url.disguisedDelimiterClass.has = false := by decide
  path_rooted : path.head? = some '/' := by decide
  path_free : Text.Free (outerMarks ++ ['?', ';']) path := by decide
  query_ne_nil : query ≠ [] := by decide
  query_free : Text.Free outerMarks query := by decide
  relation_free : Text.Free ['<', '"'] relation := by decide
  gap_blank : ∀ c ∈ gap, Text.isBlank c = true := by exact List.all_eq_true.mp (by decide)
  before_blank : ∀ c ∈ before, Text.isBlank c = true := by exact List.all_eq_true.mp (by decide)
  after_blank : ∀ c ∈ after, Text.isBlank c = true := by exact List.all_eq_true.mp (by decide)

/-- Letters, digits, dots and hyphens may stand in a host. -/
theorem plain_host {host : List Char} (h : host.all (fun c => c.isAlphanum || c == '.' || c == '-') = true) :
    Text.Free (outerMarks ++ ['/', '?', '[', ']']) host ∧ host.any Url.disguisedDelimiterClass.has = false := by
  have hplain : ∀ c ∈ host, c.isAlphanum = true ∨ c = '.' ∨ c = '-' := by
    simpa [or_assoc] using h
  refine ⟨fun c hc hmem => ?_, ?_⟩
  · have hmarks : (outerMarks ++ ['/', '?', '[', ']']).all (fun c => !(c.isAlphanum || c == '.' || c == '-')) = true :=
      by decide
    have hmark := List.all_eq_true.mp hmarks c hc
    have hplain := hplain c hmem
    simp_all
  · rw [List.any_eq_false]
    intro c hc hdisguised
    obtain ⟨range, hrange, hbounds⟩ := List.any_eq_true.mp hdisguised
    have hhigh : ∀ r ∈ Url.disguisedDelimiterClass.ranges, 0x80 ≤ r.1 := by decide
    have hlow : c.toNat < 0x80 := by
      rcases hplain c hc with halphanum | rfl | rfl
      · have hbounds := Text.bounds_of_isAlphanum halphanum
        omega
      · decide
      · decide
    have hfirst := hhigh range hrange
    simp at hbounds
    omega

namespace Entry

/-- The path with the query. -/
def target (e : Entry) : List Char :=
  e.path ++ '?' :: e.query

def url (e : Entry) : List Char :=
  ['h', 't', 't', 'p', 's'] ++ ':' :: '/' :: '/' :: (e.host ++ e.target)

def attributes (e : Entry) : List Char :=
  e.before ++ ';' :: (e.after ++ ['r', 'e', 'l', '=', '"'] ++ e.relation ++ ['"'])

def text (e : Entry) : List Char :=
  e.gap ++ '<' :: (e.url ++ '>' :: e.attributes)

/-- A link to the next page. -/
def IsNext (e : Entry) : Prop :=
  e.relation = ['n', 'e', 'x', 't']

instance (e : Entry) : Decidable e.IsNext :=
  inferInstanceAs (Decidable (_ = _))

variable (e : Entry)

theorem url_free : Text.Free outerMarks e.url := by
  have hhost := (Text.Free.append_iff.mp e.host_free).1
  have hpath := (Text.Free.append_iff.mp e.path_free).1
  have hscheme : Text.Free outerMarks ['h', 't', 't', 'p', 's', ':', '/', '/', '?'] := by decide
  intro c hc
  have hscheme := hscheme c hc
  simp only [List.mem_cons, not_or] at hscheme
  simp [url, target, hhost c hc, hpath c hc, e.query_free c hc, hscheme]

theorem path_eq : ∃ rest, e.path = '/' :: rest := by
  have hrooted := e.path_rooted
  cases hpath : e.path with
  | nil => simp [hpath] at hrooted
  | cons c rest => exact ⟨rest, by simpa [hpath] using hrooted⟩

/-! ## Reading the address -/

theorem clean_url : Url.clean e.url = e.url := by
  have hstart : e.url.dropWhile (fun c => c.toNat ≤ 0x20) = e.url := rfl
  rw [Url.clean, hstart, List.filter_eq_self]
  intro c hc
  have hbreak : ∀ d ∈ outerMarks, c ≠ d := fun d hd => e.url_free.ne hd hc
  simp [hbreak '\t' (by decide), hbreak '\r' (by decide), hbreak '\n' (by decide)]

theorem takeScheme_url : Url.takeScheme e.url = ("https", '/' :: '/' :: (e.host ++ e.target)) := by
  have hcut : Text.cut? ':' e.url = some (['h', 't', 't', 'p', 's'], '/' :: '/' :: (e.host ++ e.target)) :=
    Text.cut?_append (by decide) _
  unfold Url.takeScheme
  rw [hcut]
  rfl

theorem takeAuthority_url : Url.takeAuthority ('/' :: '/' :: (e.host ++ e.target)) = (e.host, e.target) := by
  have hfree := (Text.Free.append_iff.mp e.host_free)
  have hhost : ∀ c ∈ e.host, (!Url.endsAuthority c) = true := by
    intro c hc
    simp [Url.endsAuthority, hfree.2.ne (d := '/') (by decide) hc, hfree.2.ne (d := '?') (by decide) hc,
      hfree.1.ne (d := '#') (by decide) hc]
  have hends : Text.EndsAt (!Url.endsAuthority ·) e.target := by
    obtain ⟨rest, hpath⟩ := e.path_eq
    rw [target, hpath]
    exact .cons (by decide) _
  rw [Url.takeAuthority, Text.takeWhile_append_endsAt hhost hends, Text.dropWhile_append_endsAt hhost hends]

theorem isAuthority_host : Url.isAuthority e.host = true := by
  have hbrackets := (Text.Free.append_iff.mp e.host_free).2
  have hopen : e.host.contains '[' = false := by simpa using hbrackets '[' (by decide)
  have hclose : e.host.contains ']' = false := by simpa using hbrackets ']' (by decide)
  rw [Url.isAuthority, hopen, hclose, e.host_undisguised]
  rfl

theorem pathAndQuery_target : Url.pathAndQuery e.target = (e.path, e.query) := by
  have hfree := Text.Free.append_iff.mp e.path_free
  have hfragment : e.target.takeWhile (· != '#') = e.target := by
    rw [List.takeWhile_eq_self_iff]
    intro c hc
    have hhash := e.url_free.ne (c := c) (d := '#') (by decide) (by simp [url, hc])
    simpa using hhash
  have hpath : ∀ c ∈ e.path, (c != '?') = true := by
    intro c hc
    simpa using hfree.2.ne (d := '?') (by decide) hc
  have hends : Text.EndsAt (· != '?') ('?' :: e.query) := .cons (by decide) _
  rw [Url.pathAndQuery, hfragment, target, Text.takeWhile_append_endsAt hpath hends,
    Text.dropWhile_append_endsAt hpath hends]
  rfl

theorem dropParameters_path : Url.dropParameters e.path = e.path := by
  have hslash : '/' ∈ e.path.reverse := by
    obtain ⟨rest, hpath⟩ := e.path_eq
    simp [hpath]
  obtain ⟨last, before, hreverse, hlast⟩ := List.eq_append_cons_of_mem hslash
  have hpath : e.path = before.reverse ++ '/' :: last.reverse := by
    rw [← List.reverse_reverse e.path, hreverse]
    simp
  have hplain : last.reverse.takeWhile (· != ';') = last.reverse := by
    rw [List.takeWhile_eq_self_iff]
    intro c hc
    have hsemicolon := (Text.Free.append_iff.mp e.path_free).2.ne (c := c) (d := ';') (by decide) (by simp [hpath, hc])
    simpa using hsemicolon
  unfold Url.dropParameters
  rw [hreverse, Text.cut?_append hlast]
  dsimp only
  rw [hplain, ← hpath]

theorem read?_url : Url.read? e.url = some ⟨"https", e.host, e.path, e.query⟩ := by
  have hscheme : Url.parameterSchemes.contains "https" = true := by decide
  rw [Url.read?, clean_url, takeScheme_url]
  dsimp only
  rw [takeAuthority_url]
  dsimp only
  rw [if_pos e.isAuthority_host, pathAndQuery_target]
  dsimp only
  rw [if_pos hscheme, dropParameters_path]

theorem target?_url : target? ⟨"https", e.host, e.path, e.query⟩ = some (String.ofList e.target) := by
  obtain ⟨rest, hpath⟩ := e.path_eq
  simp [target?, hpath, e.query_ne_nil, target]

/-! ## Finding the address -/

/-- Of a text in quotes, only the text itself begins with another text in quotes. -/
theorem quoted_prefix_iff {a b rest : List Char} (ha : '"' ∉ a) (hb : '"' ∉ b) :
    a ++ ['"'] <+: b ++ '"' :: rest ↔ b = a := by
  constructor
  · rintro ⟨more, heq⟩
    have hcut := congrArg (Text.cut? '"') heq
    rw [List.append_assoc, List.singleton_append, Text.cut?_append ha, Text.cut?_append hb] at hcut
    exact (Prod.mk.inj (Option.some.inj hcut)).1.symm
  · rintro rfl
    exact ⟨rest, by simp⟩

theorem namesNext_attributes (rest : List Char) : namesNext (e.attributes ++ rest) = true ↔ e.IsNext := by
  have hsemicolon : Text.EndsAt Text.isBlank
      (';' :: (e.after ++ ['r', 'e', 'l', '=', '"'] ++ e.relation ++ ['"'] ++ rest)) := .cons (by decide) _
  have hname : Text.EndsAt Text.isBlank (['r', 'e', 'l', '=', '"'] ++ (e.relation ++ '"' :: rest)) := .cons (by decide) _
  have hfront : Text.trimLeft (e.attributes ++ rest) =
      ';' :: (e.after ++ (['r', 'e', 'l', '=', '"'] ++ (e.relation ++ '"' :: rest))) := by
    simpa [attributes, Text.trimLeft] using Text.dropWhile_append_endsAt e.before_blank hsemicolon
  have hback : Text.trimLeft (e.after ++ (['r', 'e', 'l', '=', '"'] ++ (e.relation ++ '"' :: rest))) =
      ['r', 'e', 'l', '=', '"'] ++ (e.relation ++ '"' :: rest) :=
    Text.dropWhile_append_endsAt e.after_blank hname
  have hword : "rel=\"next\"".toList = ['r', 'e', 'l', '=', '"'] ++ (['n', 'e', 'x', 't'] ++ ['"']) := rfl
  rw [namesNext, hfront]
  simp only
  rw [hback, hword, List.isPrefixOf_iff_prefix, List.prefix_append_right_inj]
  exact quoted_prefix_iff (by decide) (e.relation_free '"' (by decide))

theorem search?_append {a : List Char} (h : '<' ∉ a) (rest : List Char) : search? (a ++ rest) = search? rest := by
  induction a with
  | nil => rfl
  | cons c a ih =>
    have hc : c ≠ '<' := fun heq => h (by simp [heq])
    have hhere : here? (c :: (a ++ rest)) = none := by
      unfold here?
      split
      · rename_i heq
        exact absurd (List.cons.inj heq).1 hc
      · rfl
    rw [List.cons_append, search?, hhere]
    exact ih fun hmem => h (by simp [hmem])

theorem here?_text (rest : List Char) : here? ('<' :: (e.url ++ '>' :: e.attributes ++ rest)) =
    if e.IsNext then some e.url else none := by
  have hcut : Text.cut? '>' (e.url ++ '>' :: e.attributes ++ rest) = some (e.url, e.attributes ++ rest) := by
    rw [List.append_assoc, List.cons_append]
    exact Text.cut?_append (e.url_free '>' (by decide)) _
  have hurl : (!e.url.isEmpty) = true := rfl
  rw [here?, hcut]
  dsimp only
  rw [hurl, Bool.true_and]
  by_cases hnext : e.IsNext
  · rw [if_pos hnext, if_pos ((e.namesNext_attributes rest).mpr hnext)]
  · rw [if_neg hnext, if_neg (mt (e.namesNext_attributes rest).mp hnext)]

theorem search?_text (rest : List Char) : search? (e.text ++ rest) =
    if e.IsNext then some e.url else search? rest := by
  have hblank : ∀ blanks : List Char, (∀ c ∈ blanks, Text.isBlank c = true) → '<' ∉ blanks := by
    intro blanks h hmem
    exact absurd (h _ hmem) (by decide)
  have hbehind : '<' ∉ e.url ++ '>' :: e.attributes := by
    simp [attributes, e.url_free '<' (by decide), e.relation_free '<' (by decide), hblank _ e.before_blank,
      hblank _ e.after_blank]
  rw [text, List.append_assoc, List.cons_append, search?_append (hblank _ e.gap_blank), search?, here?_text]
  by_cases hnext : e.IsNext
  · rw [if_pos hnext, if_pos hnext]
  · rw [if_neg hnext, if_neg hnext]
    exact search?_append hbehind rest

end Entry

/-! ## The whole header -/

/-- A header that names some links, with commas between them. -/
def header (links : List Entry) : String :=
  String.ofList ([','].intercalate (links.map Entry.text))

/-- By induction on the links behind the first one, each of which stands behind a comma. -/
theorem search?_more (links : List Entry) : search? ((links.map Entry.text).flatMap fun text => ',' :: text) =
    (links.find? fun e => e.IsNext).map Entry.url := by
  induction links with
  | nil => rfl
  | cons e links ih =>
    have hcomma : ∀ s, search? (',' :: s) = search? s := fun s => Entry.search?_append (a := [',']) (by decide) s
    rw [List.map_cons, List.flatMap_cons, List.cons_append, hcomma, e.search?_text, ih, List.find?_cons]
    by_cases hnext : e.IsNext
    · simp [hnext]
    · simp [hnext]

theorem search?_header (links : List Entry) : search? (header links).toList =
    (links.find? fun e => e.IsNext).map Entry.url := by
  rw [header, String.toList_ofList]
  cases links with
  | nil => rfl
  | cons e links =>
    rw [List.map_cons, Text.intercalate_cons, e.search?_text, search?_more, List.find?_cons]
    by_cases hnext : e.IsNext
    · simp [hnext]
    · simp [hnext]

/-- **The next page is found**: the path and the query of the first link that leads there, and nothing if none does. -/
theorem next_header (links : List Entry) : next (some (header links)) =
    .ok ((links.find? fun e => e.relation = "next".toList).map fun e => String.ofList (e.path ++ '?' :: e.query)) := by
  change _ = Except.ok ((links.find? fun e => e.IsNext).map fun e => String.ofList e.target)
  rw [next, Option.getD_some, search?_header]
  cases links.find? fun e => e.IsNext with
  | none => rfl
  | some e =>
    simp only [Option.map_some, e.read?_url, e.target?_url]

/-- The link back from the second page of a listing. -/
def backward : Entry where
  host := "api.github.com".toList
  path := "/repos/o/r/pulls".toList
  query := "state=open&page=1".toList
  relation := "prev".toList
  after := [' ']
  host_free := (plain_host rfl).1
  host_undisguised := (plain_host rfl).2

/-- The link onward from the second page, with blanks around its semicolon. -/
def onward : Entry where
  host := "api.github.com".toList
  path := "/repos/o/r/pulls".toList
  query := "state=open&page=3".toList
  relation := "next".toList
  gap := [' ']
  before := ['\t']
  after := [' ', ' ']
  host_free := (plain_host rfl).1
  host_undisguised := (plain_host rfl).2

example : header [backward, onward] =
    "<https://api.github.com/repos/o/r/pulls?state=open&page=1>; rel=\"prev\"," ++
      " <https://api.github.com/repos/o/r/pulls?state=open&page=3>\t;  rel=\"next\"" := by decide +kernel

theorem next_header_onward :
    next (some (header [backward, onward])) = .ok (some "/repos/o/r/pulls?state=open&page=3") :=
  next_header [backward, onward]

end Link

end RunSteward
