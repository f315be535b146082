import LineageGuard.Github.PortRuns
import LineageGuard.Guarantees.CandidateRequest
import Mathlib.Tactic

/-
This file proves how far the fingerprint of an effect determines the mutations of the live GitHub
port.
-/

namespace LineageGuard.Github

open Json Domain Attempt Dialogue

section Contents

def CodePoint.lone : CodePoint → Option (Fin 2048)
  | .scalar _ => none
  | .surrogate index => some index

/-- These are the surrogates that stand alone, with their places. -/
def JsText.lone (text : JsText) : List (Option (Fin 2048)) := text.map CodePoint.lone

/-- The encoding loses nothing but the surrogates that stand alone. -/
theorem content_eq {first second : JsText} (encoded : first.encoded = second.encoded)
    (lone : first.lone = second.lone) : first = second := by
  induction first generalizing second with
  | nil => exact (List.map_eq_nil_iff.mp encoded.symm).symm
  | cons point rest ih =>
      cases second with
      | nil => exact absurd encoded (List.cons_ne_nil _ _)
      | cons other others =>
          obtain ⟨sameChar, encodedRest⟩ := List.cons.inj encoded
          obtain ⟨sameLone, loneRest⟩ := List.cons.inj lone
          have same : point = other := by
            cases point with
            | scalar char =>
                cases other with
                | scalar otherChar => exact congrArg CodePoint.scalar sameChar
                | surrogate index => cases sameLone
            | surrogate index =>
                cases other with
                | scalar otherChar => cases sameLone
                | surrogate otherIndex => exact congrArg CodePoint.surrogate (Option.some.inj sameLone)
          rw [same, ih encodedRest loneRest]

/-- The contents have the same surrogates that stand alone. -/
def SameSurrogates (first second : GitHubReviewRequest) : Prop :=
  first.artifacts.map (fun artifact => artifact.content.lone) =
    second.artifacts.map fun artifact => artifact.content.lone

end Contents

section Effects

variable {script : Script} {options : LiveGitHubOptions} {first second : GitHubReviewRequest}

/-- No two of the texts have the same digest. -/
def NoCollision (script : Script) (texts : List (List Char)) : Prop :=
  ∀ one ∈ texts, ∀ other ∈ texts, script.digest one = script.digest other → one = other

/-- These texts are hashed for a request. -/
def hashedTexts (script : Script) (input : GitHubReviewRequest) : List (List Char) :=
  canonicalJson script (.object (canonicalMembers script input (headText input))) ::
    input.artifacts.map fun artifact => artifact.content.encoded

theorem accepted_head {input : GitHubReviewRequest} (fields : AcceptedFields options input) :
    headName input = .ok (headText input) := by
  have digits : isFingerprint input.candidateFingerprint = true :=
    List.all_eq_true.mp fields.fingerprints _ (by simp [effectFingerprints])
  have named : ∃ name, headName input = .ok name := by
    simp only [headName, deterministicHead, fields.unnumbered, require, if_pos digits]
    exact ⟨_, rfl⟩
  obtain ⟨name, isName⟩ := named
  rw [headText, isName]
  rfl

theorem accepted_fingerprint {input : GitHubReviewRequest}
    (fields : AcceptedFields options input) : githubEffectFingerprint script input =
      .ok (sha256CanonicalJson script
        (.object (canonicalMembers script input (headText input)))) := by
  have named : deterministicHead input.candidateFingerprint input.sourcePrNumber =
      .ok (headText input) := accepted_head fields
  simp only [githubEffectFingerprint, canonicalGitHubEffect, named]
  rfl

theorem canonicalMembers_plain (input : GitHubReviewRequest) (head : String) :
    Plain (.object (canonicalMembers script input head)) := by
  simp only [canonicalMembers, Plain, PlainMembers, plainItems_iff, List.mem_map,
    forall_exists_index, and_imp]
  have artifacts : ∀ value artifact, artifact ∈ input.artifacts →
      canonicalArtifact script input.validation.artifacts artifact = value → Plain value := by
    rintro value artifact _ rfl
    cases operation : artifact.operation <;>
      simp [canonicalArtifact, Plain, PlainMembers, operation,
        GitHubArtifactOperation.expectedBlob]
  exact ⟨by decide, trivial, trivial, trivial, trivial, trivial, trivial, trivial, trivial, trivial,
    trivial, trivial, trivial, trivial, trivial, trivial, artifacts, ⟨trivial, trivial, trivial⟩,
    trivial⟩

theorem canonicalJson_inj (left right : Value) (leftPlain : Plain left) (rightPlain : Plain right)
    (same : canonicalJson script left = canonicalJson script right) :
    canonical unitLe left = canonical unitLe right := by
  rw [canonicalJson, canonicalJson, stringify_eq script _ (plain_canonical unitLe left leftPlain),
    stringify_eq script _ (plain_canonical unitLe right rightPlain)] at same
  exact text_inj same

/-- Equal fingerprints come from equal effects. -/
theorem effects_equal (firstFields : AcceptedFields options first)
    (secondFields : AcceptedFields options second)
    (distinct : NoCollision script (hashedTexts script first ++ hashedTexts script second))
    (same : githubEffectFingerprint script first = githubEffectFingerprint script second) :
    canonical unitLe (.object (canonicalMembers script first (headText first))) =
      canonical unitLe (.object (canonicalMembers script second (headText second))) := by
  rw [accepted_fingerprint firstFields, accepted_fingerprint secondFields, Except.ok.injEq] at same
  have texts := distinct _ (List.mem_append_left _ List.mem_cons_self) _
    (List.mem_append_right _ List.mem_cons_self) same
  exact canonicalJson_inj _ _ (canonicalMembers_plain first _) (canonicalMembers_plain second _) texts

theorem canonicalMembers_single (input : GitHubReviewRequest) (head : String) :
    ((canonicalMembers script input head).map Prod.fst).Nodup := by
  have keys : (canonicalMembers script input head).map Prod.fst = ["schemaVersion",
      "reservationId", "runId", "effectKind", "apiBaseUrl", "repository", "baseBranch", "baseSha",
      "headBranch", "target", "idempotencyKey", "intentFingerprint", "candidateFingerprint",
      "artifactSetFingerprint", "validationReceiptFingerprint", "approvalFingerprint", "artifacts",
      "pullRequest"] := by
    simp only [canonicalMembers, List.map_cons, List.map_nil]
  rw [keys]
  decide

/-- An accepted artifact is bound through the digest of its content. -/
theorem canonicalArtifact_accepted {observations : List ValidatedArtifactBinding}
    {artifact : GitHubArtifact} (accepted : AcceptedArtifact script observations artifact) :
    canonicalArtifact script observations artifact =
      .object [("path", .string artifact.path), ("operation", .string artifact.operation.word),
        ("expectedBaseBlobSha", artifact.operation.expectedBlob),
        ("candidateArtifactFingerprint", .string artifact.candidateArtifactFingerprint),
        ("materializedSha256", .string (sha256Bytes script artifact.content))] := by
  obtain ⟨observation, found, _, materialized⟩ := accepted.observed
  simp only [canonicalArtifact, found, materialized]

/-- Equal effects have the same paths and the same encoded contents. -/
theorem artifacts_bound (firstArtifacts : AcceptedArtifacts script first)
    (secondArtifacts : AcceptedArtifacts script second)
    (distinct : NoCollision script (hashedTexts script first ++ hashedTexts script second))
    (same : (first.artifacts.map (canonicalArtifact script first.validation.artifacts)).map
        (canonical unitLe) =
      (second.artifacts.map (canonicalArtifact script second.validation.artifacts)).map
        (canonical unitLe)) :
    first.artifacts.map (·.path) = second.artifacts.map (·.path) ∧
      first.artifacts.map (fun artifact => artifact.content.encoded) =
        second.artifacts.map fun artifact => artifact.content.encoded := by
  have lengths : first.artifacts.length = second.artifacts.length := by
    simpa using congrArg List.length same
  have each : ∀ index (within : index < first.artifacts.length)
      (alsoWithin : index < second.artifacts.length),
      first.artifacts[index].path = second.artifacts[index].path ∧
        first.artifacts[index].content.encoded = second.artifacts[index].content.encoded := by
    intro index within alsoWithin
    have equal := List.getElem_of_eq same (by simpa using within)
    rw [List.getElem_map, List.getElem_map, List.getElem_map, List.getElem_map,
      canonicalArtifact_accepted (firstArtifacts.each _ (List.getElem_mem within)),
      canonicalArtifact_accepted (secondArtifacts.each _ (List.getElem_mem alsoWithin))] at equal
    have single : (["path", "operation", "expectedBaseBlobSha", "candidateArtifactFingerprint",
        "materializedSha256"] : List String).Nodup := by decide
    refine ⟨string_member equal single 0 rfl rfl, ?_⟩
    apply distinct _ _ _ _ (string_member equal single 4 rfl rfl)
    · exact List.mem_append_left _ (List.mem_cons_of_mem _
        (List.mem_map_of_mem (List.getElem_mem within)))
    · exact List.mem_append_right _ (List.mem_cons_of_mem _
        (List.mem_map_of_mem (List.getElem_mem alsoWithin)))
  constructor
  · apply List.ext_getElem (by simpa using lengths)
    intro index within alsoWithin
    rw [List.getElem_map, List.getElem_map]
    exact (each index (by simpa using within) (by simpa using alsoWithin)).1
  · apply List.ext_getElem (by simpa using lengths)
    intro index within alsoWithin
    rw [List.getElem_map, List.getElem_map]
    exact (each index (by simpa using within) (by simpa using alsoWithin)).2

theorem newEntries_paths {artifacts others : List GitHubArtifact}
    (same : artifacts.map (·.path) = others.map (·.path)) (blobShas : List String) :
    newEntries artifacts blobShas = newEntries others blobShas := by
  have byPath : ∀ list : List GitHubArtifact, newEntries list blobShas =
      List.zipWith NewTreeEntry.mk (list.map (·.path)) blobShas := by
    intro list
    rw [List.zipWith_map_left]
    rfl
  rw [byPath, byPath, same]

/-- The mutations apart from the blobs are determined by the effect. -/
theorem bodies_bound (same : canonical unitLe
      (.object (canonicalMembers script first (headText first))) =
      canonical unitLe (.object (canonicalMembers script second (headText second))))
    (paths : first.artifacts.map (·.path) = second.artifacts.map (·.path))
    (replies : CreationReplies) :
    postBodies first replies = postBodies second replies ↔
      blobBodies first.artifacts = blobBodies second.artifacts := by
  have single := @canonicalMembers_single script second (headText second)
  have runId : first.runId = second.runId := string_member same single 2 rfl rfl
  have baseBranch : first.baseBranch = second.baseBranch := string_member same single 6 rfl rfl
  have baseSha : first.baseSha = second.baseSha := string_member same single 7 rfl rfl
  have head : headText first = headText second := string_member same single 8 rfl rfl
  have intent : first.intentFingerprint = second.intentFingerprint :=
    string_member same single 11 rfl rfl
  have pull : canonical unitLe (.object [("title", .string first.title),
        ("body", .string (renderPullRequestBody first))]) =
      canonical unitLe (.object [("title", .string second.title),
        ("body", .string (renderPullRequestBody second))]) :=
    canonical_member same single (List.mem_of_getElem? (i := 17) rfl)
      (List.mem_of_getElem? (i := 17) rfl)
  have pullSingle : (["title", "body"] : List String).Nodup := by decide
  have title : first.title = second.title := string_member pull pullSingle 0 rfl rfl
  have body : renderPullRequestBody first = renderPullRequestBody second :=
    string_member pull pullSingle 1 rfl rfl
  have message : commitMessage first = commitMessage second := by
    unfold commitMessage
    rw [runId, intent]
  simp only [postBodies, branchBodies, pullBody, newEntries_paths paths, message, head, baseSha,
    baseBranch, title, body, List.append_cancel_right_eq]

end Effects

section Binding

variable {script : Script} {options : LiveGitHubOptions} {first second : GitHubReviewRequest}

theorem blobBodies_eq {artifacts others : List GitHubArtifact} :
    blobBodies artifacts = blobBodies others ↔
      artifacts.map (·.content) = others.map (·.content) := by
  have contents : ∀ list : List GitHubArtifact,
      blobBodies list = (list.map (·.content)).map Mutation.blob := by
    intro list
    rw [List.map_map]
    rfl
  rw [contents, contents]
  exact (List.map_injective_iff.mpr fun _ _ same => Mutation.blob.inj same).eq_iff

theorem contents_eq {artifacts others : List GitHubArtifact}
    (encoded : artifacts.map (fun artifact => artifact.content.encoded) =
      others.map fun artifact => artifact.content.encoded) :
    artifacts.map (·.content) = others.map (·.content) ↔
      artifacts.map (fun artifact => artifact.content.lone) =
        others.map fun artifact => artifact.content.lone := by
  constructor
  · intro same
    have lone := congrArg (List.map JsText.lone) same
    rwa [List.map_map, List.map_map] at lone
  · intro lone
    have lengths : artifacts.length = others.length := by simpa using congrArg List.length encoded
    apply List.ext_getElem (by simpa using lengths)
    intro index within alsoWithin
    have sameEncoded := List.getElem_of_eq encoded (by simpa using within)
    have sameLone := List.getElem_of_eq lone (by simpa using within)
    rw [List.getElem_map, List.getElem_map] at sameEncoded sameLone ⊢
    exact content_eq sameEncoded sameLone

/-- A creation sends bodies of the plan only, and two accepted requests with one fingerprint have
the same plan exactly when their contents have the same surrogates that stand alone. -/
theorem effect_bodies_bound (script : Script) (calendar : Calendar) (options : LiveGitHubOptions)
    (first second : GitHubReviewRequest) (firstAccepted : validateRequest script options first = .ok ())
    (secondAccepted : validateRequest script options second = .ok ())
    (distinct : NoCollision script (hashedTexts script first ++ hashedTexts script second))
    (same : githubEffectFingerprint script first = githubEffectFingerprint script second) :
    (∀ input fingerprint trace result,
      Runs (create script calendar options input fingerprint) trace result →
        ∃ replies, posts trace <+: postBodies input replies) ∧
    ((∀ replies, postBodies first replies = postBodies second replies) ↔
      SameSurrogates first second) := by
  obtain ⟨firstFields, firstArtifacts⟩ := validateRequest_ok.mp firstAccepted
  obtain ⟨secondFields, secondArtifacts⟩ := validateRequest_ok.mp secondAccepted
  have effects := effects_equal firstFields secondFields distinct same
  obtain ⟨paths, encoded⟩ := artifacts_bound firstArtifacts secondArtifacts distinct
    (array_member effects (canonicalMembers_single _ _) 16 rfl rfl)
  refine ⟨fun input fingerprint trace result runs => create_posts runs, ?_⟩
  rw [SameSurrogates, ← contents_eq encoded, ← blobBodies_eq]
  constructor
  · intro bodies
    exact (bodies_bound effects paths ⟨"", [], "", ""⟩).mp (bodies _)
  · intro blobs replies
    exact (bodies_bound effects paths replies).mpr blobs

end Binding

section Samples

/-- The content is one surrogate that stands alone. -/
def sampleArtifact (index : Fin 2048) : GitHubArtifact :=
  ⟨"docs/migrations/a.md", [.surrogate index], hexText 0, .create⟩

def firstSurrogate : Fin 2048 := 0

def sampleBinding : ValidatedArtifactBinding :=
  ⟨"docs/migrations/a.md", hexText 0, sha256Bytes sampleScript [.surrogate 0]⟩

def sampleReview (index : Fin 2048) : GitHubReviewRequest :=
  { reviewRequest sampleScript sampleOptions sampleDetails none (sampleCandidate false) with
    validation := ⟨sampleDetails.runId, hexText 0, hexText 0, hexText 0, [sampleBinding]⟩
    artifacts := [sampleArtifact index] }

theorem sampleReview_accepted (index : Fin 2048) :
    validateRequest sampleScript sampleOptions (sampleReview index) = .ok () := by
  have details := sampleDetails_wellFormed
  refine validateRequest_ok.mpr ⟨⟨rfl, rfl, rfl, rfl, rfl, details.runId, details.baseSha,
    details.reservation, details.idempotencyKey, details.fingerprints, rfl, rfl, rfl, rfl,
    details.title, details.summary, details.evidence, details.steps⟩,
    ⟨⟨le_rfl, Nat.succ_le_succ (Nat.zero_le _)⟩, rfl, List.nodup_singleton _, rfl, ?_⟩⟩
  intro artifact present
  rw [List.mem_singleton.mp present]
  have path : safePath "docs/migrations/a.md" = true := by decide
  have bounded : 3 ≤ 100000 := by decide
  have fingerprint : isFingerprint (hexText 0) = true := by decide
  refine ⟨path, le_rfl, bounded, fingerprint, rfl, sampleBinding, ?_, rfl, rfl⟩
  simp [observationAt, sampleReview, sampleBinding, sampleArtifact]

theorem sampleReview_texts (index : Fin 2048) : ∃ rest,
    hashedTexts sampleScript (sampleReview index) = ['\x7b' :: rest, ['\uFFFD']] := by
  refine ⟨_, List.cons_inj_right _ |>.mpr rfl⟩

/-- The texts of the two requests begin with different characters. -/
theorem sampleReview_distinct (first second : Fin 2048) :
    NoCollision sampleScript (hashedTexts sampleScript (sampleReview first) ++
      hashedTexts sampleScript (sampleReview second)) := by
  have same : hashedTexts sampleScript (sampleReview second) =
      hashedTexts sampleScript (sampleReview first) := rfl
  obtain ⟨rest, texts⟩ := sampleReview_texts first
  rw [same, texts]
  have apart : sampleScript.digest ('\x7b' :: rest) ≠ sampleScript.digest ['\uFFFD'] := by
    have left : sampleScript.digest ('\x7b' :: rest) = hexText (123 * 16 ^ 60) := rfl
    have right : sampleScript.digest ['\uFFFD'] = hexText (65533 * 16 ^ 60) := rfl
    rw [left, right]
    decide
  intro one isOne other isOther equal
  simp only [List.mem_append, List.mem_cons, List.not_mem_nil, or_false, or_self] at isOne isOther
  rcases isOne with rfl | rfl <;> rcases isOther with rfl | rfl
  · rfl
  · exact absurd equal apart
  · exact absurd equal.symm apart
  · rfl

theorem sampleReview_fingerprint (first second : Fin 2048) :
    githubEffectFingerprint sampleScript (sampleReview first) =
      githubEffectFingerprint sampleScript (sampleReview second) := rfl

/-- Two contents with different surrogates have one fingerprint and two mutations. -/
theorem surrogates_unbound :
    validateRequest sampleScript sampleOptions (sampleReview 0) = .ok () ∧
      validateRequest sampleScript sampleOptions (sampleReview 1) = .ok () ∧
      NoCollision sampleScript (hashedTexts sampleScript (sampleReview 0) ++
        hashedTexts sampleScript (sampleReview 1)) ∧
      githubEffectFingerprint sampleScript (sampleReview 0) =
        githubEffectFingerprint sampleScript (sampleReview 1) ∧
      postBodies (sampleReview 0) ⟨"", [""], "", ""⟩ ≠
        postBodies (sampleReview 1) ⟨"", [""], "", ""⟩ := by
  refine ⟨sampleReview_accepted 0, sampleReview_accepted 1, sampleReview_distinct 0 1,
    sampleReview_fingerprint 0 1, fun same => ?_⟩
  have blobs := List.cons.inj same
  exact absurd blobs.1 (by decide)

def sampleDate : String := "1970-01-01T00:00:00.000Z"

def sampleCalendar : Calendar :=
  ⟨fun text => if text = sampleDate then some 0 else none, fun _ => sampleDate⟩

theorem effect_bodies_bound_sample :
    (∀ input fingerprint trace result,
      Runs (create sampleScript sampleCalendar sampleOptions input fingerprint) trace result →
        ∃ replies, posts trace <+: postBodies input replies) ∧
    ((∀ replies, postBodies (sampleReview 0) replies = postBodies (sampleReview 1) replies) ↔
      SameSurrogates (sampleReview 0) (sampleReview 1)) :=
  effect_bodies_bound sampleScript sampleCalendar sampleOptions (sampleReview 0) (sampleReview 1)
    (sampleReview_accepted 0) (sampleReview_accepted 1) (sampleReview_distinct 0 1)
    (sampleReview_fingerprint 0 1)

end Samples

end LineageGuard.Github
