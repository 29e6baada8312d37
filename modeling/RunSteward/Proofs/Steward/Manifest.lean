import RunSteward.Proofs.Gateway.Contents
import RunSteward.Proofs.Version.Grammar
import RunSteward.Steward

/-!
# The manifest of the main branch

The version of the main branch is the one in the manifest that the host keeps, whatever its line ends and characters
(`manifest_read`). A manifest that cannot be decoded counts as one without a version, except where characters outside
ASCII are passed off as base64: there all work on the main branch breaks off (`undecodable_told`).
-/

namespace RunSteward

open Act

variable {σ : Type}

/-! ## From the manifest to the summary -/

theorem Manifest.text_of_version {text key : String} {v : Version} (h : Manifest.version text key = .ok (some v)) :
    v.text = .ok v.wording := by
  unfold Manifest.version at h
  split at h
  · cases h
  · exact Version.text_of_read h

namespace Steward

variable {st : Steward σ} {s : Scope} {d d' : Desk σ}

/-- The manifest of the main branch. -/
def manifest (st : Steward σ) : Act σ String :=
  st.host.fileText st.config.repo.versionFile st.config.repo.mainlineBranch

theorem currentVersion_of_text {text : String} (h : st.manifest s d = (.ok text, d')) :
    ∃ d₁, st.currentVersion s d = ((Manifest.version text "version").mapError Failure.fault, d₁) := by
  have hread : st.currentVersion s d = _ := bind_of_ok _ (attempt_of_ok h)
  rw [hread]
  rcases hversion : Manifest.version text "version" with f | _ | v
  · exact ⟨_, by simp only [hversion]; rfl⟩
  · exact ⟨_, by simp only [hversion]; rfl⟩
  · have hheld : (orHalt (.ok (some v)) : Act σ _) s d' = (.ok (some v), d') := rfl
    have hwritten : (some v).mapM Version.text = .ok (some v.wording) := by
      rw [Option.mapM_some, Manifest.text_of_version hversion]
      rfl
    simp only [hversion]
    rw [bind_of_ok _ hheld, hwritten]
    exact ⟨_, rfl⟩

theorem currentVersion_of_refusal {e : HostError} (h : st.manifest s d = (.error (.host e), d')) :
    ∃ d₁, st.currentVersion s d = (.ok none, d₁) :=
  ⟨_, bind_of_ok _ (attempt_of_refusal h)⟩

theorem currentVersion_of_fault {f : Fault} (h : st.manifest s d = (.error (.fault f), d')) :
    st.currentVersion s d = (.error (.fault f), d') :=
  bind_of_error _ (attempt_of_fault h)

theorem mainlineMilestone_of_none (h : st.currentVersion s d = (.ok none, d')) :
    st.mainlineMilestone s d = (.ok none, d') :=
  bind_of_ok _ h

theorem mainlineMilestone_of_error {e : Failure} (h : st.currentVersion s d = (.error e, d')) :
    st.mainlineMilestone s d = (.error e, d') :=
  bind_of_error _ h

/-- What there is to say about a repository whose version is not known. -/
def bareSummary (st : Steward σ) : Summary :=
  ⟨st.config.repo.fullName, st.config.repo.htmlUrl, st.config.repo.mainlineBranch, none, none⟩

theorem describe_of_none (h : st.currentVersion { s with repo := some st.fullName } d = (.ok none, d')) :
    st.describe s d = (.ok st.bareSummary, d') :=
  bind_of_ok _ h

theorem describe_of_error {e : Failure} (h : st.currentVersion { s with repo := some st.fullName } d = (.error e, d')) :
    st.describe s d = (.error e, d') :=
  bind_of_error _ h

end Steward

/-! ## Manifests that a host keeps -/

namespace Gateway

variable {g : Gateway σ} {path ref content text : String} {payload : Json} {members : List (String × Json)}
  {s : Scope} {d d' : Desk (Session σ)}

/-- A steward that reads its manifest through a gateway, from a path as a branch has it. -/
structure Reads (st : Steward (Session σ)) (g : Gateway σ) (path ref : String) : Prop where
  host : ∃ limit, st.host = g.host limit
  path : st.config.repo.versionFile = path
  ref : st.config.repo.mainlineBranch = ref

theorem Reads.manifest_eq {st : Steward (Session σ)} (h : Reads st g path ref) : st.manifest = g.fileText path ref := by
  obtain ⟨⟨limit, hhost⟩, rfl, rfl⟩ := h
  rw [Steward.manifest, hhost]
  rfl

/-- **The manifest is read as it is kept.** Where the payload with the contents of a file is delivered, and its content
is the base64 form of a text with line breaks put in anywhere, the file is read as this text, and the version of the
main branch is the one that the text assigns. -/
theorem manifest_read (hencoding : Json.get members "encoding" = .string "base64")
    (hcontent : Json.get members "content" = .string content)
    (hwraps : Text.Base64.Wraps content text.toUTF8.data.toList)
    (hdelivered : g.Delivered (g.contentsPath path ref) (.object members) d) (s : Scope) :
    (g.fileText path ref s d).1 = .ok text ∧
      ∀ st : Steward (Session σ), Reads st g path ref →
        (st.currentVersion s d).1 = (Manifest.version text "version").mapError Failure.fault := by
  obtain ⟨d₁, hread⟩ := hdelivered.fileText s
  rw [contentsOf_wraps hencoding hcontent hwraps] at hread
  refine ⟨congrArg Prod.fst hread, fun st hst => ?_⟩
  have hmanifest : st.manifest s d = (.ok text, d₁) := hst.manifest_eq ▸ hread
  obtain ⟨d₂, hversion⟩ := Steward.currentVersion_of_text hmanifest
  exact congrArg Prod.fst hversion

/-- A steward of a repository whose host prints the same reply to every request. -/
def printedSteward (reply : String) : Steward (Session Unit) where
  config :=
    { runtime := { baseDir := ⟨"/", ["srv"]⟩ }
      repo := { owner := "o", name := "r" }
      governance := { trustedCommitters := ["ann"] } }
  governor := ⟨(printing reply).host 4, { trustedCommitters := ["ann"] }, (printing reply).clock, false, 4⟩

theorem printedSteward_reads (reply : String) :
    Reads (printedSteward reply) (printing reply) "gradle.properties" "master" :=
  ⟨⟨4, rfl⟩, rfl, rfl⟩

/-- A manifest with two kinds of line ends and two characters outside ASCII. -/
def mixedManifest : String :=
  "# größe\r\nversion = 1.2.0-RC1\n"

/-- Its base64 form in two lines. -/
def mixedContent : String :=
  "IyBncsO2w59lDQp2ZXJz\naW9uID0gMS4yLjAtUkMxCg==\n"

def mixedMembers : List (String × String) :=
  [("name", "gradle.properties"), ("content", mixedContent), ("encoding", "base64")]

theorem manifest_read_mixed :
    Text.Base64.Wraps mixedContent mixedManifest.toUTF8.data.toList ∧
      ((printing (printedTexts mixedMembers)).fileText "gradle.properties" "master" {} ⟨⟨(), []⟩, #[]⟩).1 =
        .ok mixedManifest ∧
      ((printedSteward (printedTexts mixedMembers)).currentVersion {} ⟨⟨(), []⟩, #[]⟩).1 =
        .ok (some { major := 1, minor := 2, patch := 0, prerelease := "RC1" }) := by
  obtain ⟨x, hreply, hcarries⟩ := printedTexts_carries mixedMembers (by decide) 899
  have hwraps : Text.Base64.Wraps mixedContent mixedManifest.toUTF8.data.toList := by decide +kernel
  have hencoding : Json.get (Json.texts mixedMembers) "encoding" = .string "base64" := rfl
  have hcontent : Json.get (Json.texts mixedMembers) "content" = .string mixedContent := rfl
  have hdelivered := printing_delivers hreply hcarries
    ((printing (printedTexts mixedMembers)).contentsPath "gradle.properties" "master") ⟨⟨(), []⟩, #[]⟩
  obtain ⟨htext, hversion⟩ := manifest_read hencoding hcontent hwraps hdelivered {}
  have hassigned : Manifest.version mixedManifest "version" =
      .ok (some { major := 1, minor := 2, patch := 0, prerelease := "RC1" }) := by
    decide +kernel
  refine ⟨hwraps, htext, ?_⟩
  rw [hversion _ (printedSteward_reads _), hassigned]
  rfl

/-- **Undecodable manifests.** Whatever payload is delivered with the contents of a file, the file is read or refused
unless the payload is foreign. A refused manifest counts as one without a version, and a foreign payload breaks off
whatever needs the version. -/
theorem undecodable_told (hdelivered : g.Delivered (g.contentsPath path ref) payload d) (s : Scope) :
    (((∃ text, (g.fileText path ref s d).1 = .ok text) ∨ ∃ e, (g.fileText path ref s d).1 = .error (.host e)) ↔
        ¬Foreign payload) ∧
      ∀ st : Steward (Session σ), Reads st g path ref →
        (¬Foreign payload → (∀ text, (g.fileText path ref s d).1 ≠ .ok text) →
          (st.currentVersion s d).1 = .ok none ∧ (st.mainlineMilestone s d).1 = .ok none ∧
            (st.describe s d).1 = .ok st.bareSummary) ∧
        (Foreign payload → (g.fileText path ref s d).1 = .error (.fault .contentNotAscii) ∧
          (st.currentVersion s d).1 = .error (.fault .contentNotAscii) ∧
            (st.mainlineMilestone s d).1 = .error (.fault .contentNotAscii) ∧
              (st.describe s d).1 = .error (.fault .contentNotAscii)) := by
  -- the summary is put together in the scope of the repository, where the file is read alike
  have hread := fun s' => hdelivered.fileText s'
  have hend : (g.fileText path ref s d).1 = contentsOf path payload := by
    obtain ⟨d₁, hread₁⟩ := hread s
    exact congrArg Prod.fst hread₁
  rw [hend]
  rcases contentsOf_told path payload with ⟨hforeign, hbroken⟩ | ⟨hdomestic, r, hended⟩
  · rw [hbroken] at hread ⊢
    refine ⟨by simp [hforeign], fun st hst => ⟨fun hdomestic => absurd hforeign hdomestic, fun _ => ⟨rfl, ?_⟩⟩⟩
    have hversion : ∀ s', ∃ d', st.currentVersion s' d = (.error (.fault .contentNotAscii), d') := by
      intro s'
      obtain ⟨d', hmanifest⟩ := hread s'
      exact ⟨d', Steward.currentVersion_of_fault (hst.manifest_eq ▸ hmanifest)⟩
    obtain ⟨d₁, hversion₁⟩ := hversion s
    obtain ⟨d₂, hversion₂⟩ := hversion { s with repo := some st.fullName }
    exact ⟨congrArg Prod.fst hversion₁, congrArg Prod.fst (Steward.mainlineMilestone_of_error hversion₁),
      congrArg Prod.fst (Steward.describe_of_error hversion₂)⟩
  · rw [hended] at hread ⊢
    refine ⟨by cases r <;> simp [Except.mapError, hdomestic], fun st hst =>
      ⟨fun _ hrefused => ?_, fun hforeign => absurd hforeign hdomestic⟩⟩
    cases r with
    | ok text => exact absurd rfl (hrefused text)
    | error e =>
      have hversion : ∀ s', ∃ d', st.currentVersion s' d = (.ok none, d') := by
        intro s'
        obtain ⟨d', hmanifest⟩ := hread s'
        exact Steward.currentVersion_of_refusal (hst.manifest_eq ▸ hmanifest)
      obtain ⟨d₁, hversion₁⟩ := hversion s
      obtain ⟨d₂, hversion₂⟩ := hversion { s with repo := some st.fullName }
      exact ⟨congrArg Prod.fst hversion₁, congrArg Prod.fst (Steward.mainlineMilestone_of_none hversion₁),
        congrArg Prod.fst (Steward.describe_of_none hversion₂)⟩

/-- A manifest whose padding is not complete. -/
def cutMembers : List (String × String) :=
  [("encoding", "base64"), ("content", "YQ=")]

theorem undecodable_told_cut :
    ¬Foreign (.object (Json.texts cutMembers)) ∧
      ((printedSteward (printedTexts cutMembers)).currentVersion {} ⟨⟨(), []⟩, #[]⟩).1 = .ok none ∧
      ((printedSteward (printedTexts cutMembers)).mainlineMilestone {} ⟨⟨(), []⟩, #[]⟩).1 = .ok none ∧
      ((printedSteward (printedTexts cutMembers)).describe {} ⟨⟨(), []⟩, #[]⟩).1 =
        .ok ⟨"o/r", "https://github.com/o/r", "master", none, none⟩ := by
  obtain ⟨x, hreply, hcarries⟩ := printedTexts_carries cutMembers (by decide) 899
  have hdelivered := printing_delivers hreply hcarries
    ((printing (printedTexts cutMembers)).contentsPath "gradle.properties" "master") ⟨⟨(), []⟩, #[]⟩
  have hrefused : contentsOf "gradle.properties" (.object (Json.texts cutMembers)) =
      .error (.host ⟨.transient, "Undecodable content for gradle.properties"⟩) := rfl
  obtain ⟨d₁, hread⟩ := hdelivered.fileText {}
  rw [hrefused] at hread
  obtain ⟨hends, hreports⟩ := undecodable_told hdelivered {}
  have hdomestic := hends.mp (.inr ⟨_, congrArg Prod.fst hread⟩)
  exact ⟨hdomestic, (hreports _ (printedSteward_reads _)).1 hdomestic fun text htext => by
    rw [hread] at htext
    cases htext⟩

/-- Neither a text nor a refusal, and no summary: a letter outside ASCII where base64 is promised. -/
def foreignMembers : List (String × String) :=
  [("encoding", "base64"), ("content", "é")]

theorem foreign_breaks_off :
    (∃ x, Exchange.read (printedTexts foreignMembers) = .ok x ∧ x.Carries 900 (.object (Json.texts foreignMembers))) ∧
      ((printing (printedTexts foreignMembers)).fileText "gradle.properties" "master" {} ⟨⟨(), []⟩, #[]⟩).1 =
        .error (.fault .contentNotAscii) ∧
      ((printedSteward (printedTexts foreignMembers)).currentVersion {} ⟨⟨(), []⟩, #[]⟩).1 =
        .error (.fault .contentNotAscii) ∧
      ((printedSteward (printedTexts foreignMembers)).mainlineMilestone {} ⟨⟨(), []⟩, #[]⟩).1 =
        .error (.fault .contentNotAscii) ∧
      ((printedSteward (printedTexts foreignMembers)).describe {} ⟨⟨(), []⟩, #[]⟩).1 =
        .error (.fault .contentNotAscii) := by
  refine ⟨printedTexts_carries _ (by decide) 899, eq_of_fault? ?_, eq_of_fault? ?_, eq_of_fault? ?_, eq_of_fault? ?_⟩ <;>
    decide +kernel

end Gateway

end RunSteward
