import LineageGuard.Github.LiveAdapter
import Mathlib.Tactic

/-
This file proves which mutations a run of the live GitHub port sends.
-/

namespace LineageGuard.Github

open Json Domain Attempt Dialogue

abbrev Trace := List (Exchange PortCall PortReply)

def sentBody : Exchange PortCall PortReply → Option Mutation
  | ⟨.post mutation, _⟩ => some mutation
  | _ => none

/-- These are the bodies of the mutations in the order in which they are sent. -/
def posts (trace : Trace) : List Mutation := trace.filterMap sentBody

@[simp] theorem posts_nil : posts [] = [] := rfl

@[simp] theorem posts_append (first second : Trace) :
    posts (first ++ second) = posts first ++ posts second := List.filterMap_append

@[simp] theorem posts_post (mutation : Mutation) (reply : PortReply (.post mutation))
    (rest : Trace) : posts (⟨.post mutation, reply⟩ :: rest) = mutation :: posts rest := rfl

section Bodies

/-- The mutations depend on these answers of the server. -/
structure CreationReplies where
  baseTree : String
  blobShas : List String
  treeSha : String
  headSha : String

variable (input : GitHubReviewRequest)

/-- The name of the branch is known for an accepted request. -/
def headText : String := (headName input).toOption.getD ""

def blobBodies (artifacts : List GitHubArtifact) : List Mutation :=
  artifacts.map fun artifact => .blob artifact.content

def newEntries (artifacts : List GitHubArtifact) (blobShas : List String) : List NewTreeEntry :=
  List.zipWith (fun artifact blobSha => ⟨artifact.path, blobSha⟩) artifacts blobShas

def branchBodies (replies : CreationReplies) : List Mutation :=
  blobBodies input.artifacts ++
    [.tree replies.baseTree (newEntries input.artifacts replies.blobShas),
      .commit (commitMessage input) replies.treeSha input.baseSha,
      .ref ("refs/heads/" ++ headText input) replies.headSha]

def pullBody : Mutation :=
  .pull input.title (renderPullRequestBody input) (headText input) input.baseBranch

/-- These are the bodies of all mutations of one creation. -/
def postBodies (replies : CreationReplies) : List Mutation :=
  branchBodies input replies ++ [pullBody input]

end Bodies

section Parts

variable {Result Final : Type} {trace : Trace}

theorem settle_cases {outcome : Except GitHubEffectError Result}
    {next : Result → Dialog Final} {result : Except GitHubEffectError Final}
    (runs : Runs (settle outcome >>= next) trace result) :
    (∃ error, outcome = .error error ∧ trace = [] ∧ result = .error error) ∨
      ∃ value, outcome = .ok value ∧ Runs (next value) trace result := by
  cases outcome with
  | error error =>
      have stopped : Runs (.done (.error error)) trace result := runs
      obtain ⟨ended, raised⟩ := stopped.done_cases
      exact Or.inl ⟨error, rfl, ended, raised⟩
  | ok value => exact Or.inr ⟨value, rfl, runs⟩

variable {bad : Exchange PortCall PortReply → Prop}

theorem settle_avoids {outcome : Except GitHubEffectError Result} {next : Result → Dialog Final}
    (rest : ∀ value, Avoids bad (next value)) : Avoids bad (settle outcome >>= next) :=
  Avoids.bind (Avoids.done outcome) rest

variable {script : Script} {calendar : Calendar} {options : LiveGitHubOptions}
variable {input : GitHubReviewRequest}

theorem validInvokeBy_avoids (clock : ∀ now, ¬ bad ⟨.clock, now⟩) (value : String) :
    Avoids bad (validInvokeBy calendar value) := by
  rw [validInvokeBy]
  split
  · exact Avoids.done _
  · split
    · exact Avoids.done _
    · apply Avoids.perform clock
      intro now
      split
      · exact Avoids.done _
      · exact Avoids.perform clock fun later => Avoids.done _

theorem resolveAuthorization_avoids (clock : ∀ now, ¬ bad ⟨.clock, now⟩)
    (verified : ∀ fingerprint reply, ¬ bad ⟨.verifyCurrentEffectReservation fingerprint, reply⟩) :
    Avoids bad (resolveAuthorization script calendar input) := by
  apply settle_avoids
  intro computed
  apply Avoids.perform (verified computed)
  intro reply
  cases reply with
  | failed => exact Avoids.done _
  | malformed => exact Avoids.done _
  | answered authorized =>
      exact settle_avoids fun _ => Avoids.bind (validInvokeBy_avoids clock _) fun _ =>
        settle_avoids fun _ => Avoids.done _

theorem consume_avoids {fingerprint : String} (clock : ∀ now, ¬ bad ⟨.clock, now⟩)
    (consumed : ∀ reply, ¬ bad ⟨.consumeCurrentEffect fingerprint, reply⟩) :
    Avoids bad (consume script calendar input fingerprint) := by
  refine settle_avoids fun _ => settle_avoids fun _ => Avoids.perform consumed fun reply => ?_
  cases reply with
  | failed => exact Avoids.done _
  | malformed => exact Avoids.done _
  | answered consumed =>
      exact settle_avoids fun _ => Avoids.bind (validInvokeBy_avoids clock _) fun _ =>
        Avoids.done _

theorem get_avoids {operation : GitHubOperation} {resource : Resource} {accepted : List ℕ}
    (read : ∀ reply, ¬ bad ⟨.get resource, reply⟩) :
    Avoids bad (get options operation resource accepted) := by
  have times : ∀ attempts, Avoids bad (getTimes operation accepted resource attempts) := by
    intro attempts
    induction attempts with
    | zero => exact Avoids.done _
    | succ attempts ih =>
        apply Avoids.perform read
        intro reply
        dsimp only
        split
        · exact Avoids.done _
        · split
          · exact Avoids.done _
          · exact ih
  exact times _

theorem readBase_avoids (commit : ∀ sha reply, ¬ bad ⟨.get (.commit sha), reply⟩)
    (tree : ∀ sha reply, ¬ bad ⟨.get (.tree sha), reply⟩) : Avoids bad (readBase options input) :=
  Avoids.bind (get_avoids (commit _)) fun _ => settle_avoids fun _ => settle_avoids fun _ =>
    Avoids.bind (get_avoids (tree _)) fun _ => settle_avoids fun _ => settle_avoids fun _ =>
      Avoids.done _

section Reads

variable (reads : ∀ resource reply, ¬ bad ⟨.get resource, reply⟩)

include reads

theorem verifyRepositoryAndBase_avoids : Avoids bad (verifyRepositoryAndBase options input) :=
  Avoids.bind (get_avoids (reads _)) fun _ => settle_avoids fun _ =>
    Avoids.bind (get_avoids (reads _)) fun _ => Avoids.done _

theorem readTree_avoids (treeSha : String) : Avoids bad (readTree options treeSha) :=
  Avoids.bind (get_avoids (reads _)) fun _ => settle_avoids fun _ => Avoids.done _

theorem verifyArtifacts_avoids (baseTree headTree : List TreeEntry)
    (artifacts : List GitHubArtifact) :
    Avoids bad (verifyArtifacts script options input baseTree headTree artifacts) := by
  induction artifacts with
  | nil => exact Avoids.done _
  | cons artifact rest ih =>
      exact settle_avoids fun _ => settle_avoids fun _ => Avoids.bind
        (Avoids.bind (get_avoids (reads _)) fun _ => Avoids.done _) fun _ => ih

theorem verifyReconciledArtifacts_avoids (headTreeSha : String) :
    Avoids bad (verifyReconciledArtifacts script options input headTreeSha) :=
  Avoids.bind (get_avoids (reads _)) fun _ => settle_avoids fun _ => settle_avoids fun _ =>
    Avoids.bind (readTree_avoids reads _) fun _ => Avoids.bind (readTree_avoids reads _) fun _ =>
      settle_avoids fun _ => verifyArtifacts_avoids reads _ _ _

theorem getHead_avoids : Avoids bad (getHead options input) :=
  settle_avoids fun _ => Avoids.bind (get_avoids (reads _)) fun _ => Avoids.done _

theorem pulls_avoids : Avoids bad (pulls options input) :=
  settle_avoids fun _ => Avoids.bind (get_avoids (reads _)) fun _ => Avoids.done _

theorem reconcile_avoids (allowIncomplete : Bool) (outcome : EffectOutcome) :
    Avoids bad (reconcile script calendar options input allowIncomplete outcome) := by
  apply Avoids.bind (getHead_avoids reads)
  intro found
  cases found with
  | none => exact Avoids.done _
  | some ref =>
      refine settle_avoids fun _ => settle_avoids fun _ =>
        Avoids.bind (get_avoids (reads _)) fun _ => settle_avoids fun _ =>
          Avoids.bind (verifyReconciledArtifacts_avoids reads _) fun _ =>
            Avoids.bind (pulls_avoids reads) fun listed => ?_
      match listed with
      | [] =>
          cases allowIncomplete <;> exact Avoids.done _
      | [_] => exact settle_avoids fun _ => settle_avoids fun _ => Avoids.done _
      | _ :: _ :: _ => exact Avoids.done _

theorem recoverTimes_avoids (attempts : ℕ) :
    Avoids bad (recoverTimes script calendar options input attempts) := by
  induction attempts with
  | zero => exact Avoids.done _
  | succ attempts ih =>
      apply Avoids.bind (reconcile_avoids reads _ _)
      intro found
      cases found with
      | none => exact ih
      | some receipt => exact Avoids.done _

theorem recoverCreation_avoids (error : GitHubEffectError) :
    Avoids bad (recoverCreation script calendar options input error) := by
  rw [recoverCreation]
  split
  · exact Avoids.done _
  · exact recoverTimes_avoids reads _

end Reads

end Parts

section Silence

variable {Result Final : Type} {trace : Trace}

/-- The program sends no mutation. -/
abbrev Silent (program : Dialog Result) : Prop :=
  Avoids (fun exchange => sentBody exchange ≠ none) program

theorem silent_posts {program : Dialog Result} (silent : Silent program)
    {result : Except GitHubEffectError Result} (runs : Runs program trace result) :
    posts trace = [] :=
  List.filterMap_eq_nil_iff.mpr fun exchange present =>
    not_not.mp (silent _ _ runs exchange present)

theorem reads_silent (resource : Resource) (reply : PortReply (.get resource)) :
    ¬ sentBody ⟨.get resource, reply⟩ ≠ none := fun sent => sent rfl

theorem clock_silent (now : ℤ) : ¬ sentBody ⟨.clock, now⟩ ≠ none := fun sent => sent rfl

theorem consume_silent {script : Script} {calendar : Calendar} {input : GitHubReviewRequest}
    (fingerprint : String) : Silent (consume script calendar input fingerprint) :=
  consume_avoids clock_silent fun _ sent => sent rfl

end Silence

section Creation

variable {script : Script} {calendar : Calendar} {options : LiveGitHubOptions}
variable {input : GitHubReviewRequest} {trace : Trace}

/-- A mutation is sent once whatever becomes of it. -/
theorem post_cases {Final : Type} {operation : GitHubOperation} {mutation : Mutation}
    {next : GitHubHttpResponse → Dialog Final} {result : Except GitHubEffectError Final}
    (runs : Runs (post operation mutation >>= next) trace result) :
    ∃ reply rest, trace = ⟨.post mutation, reply⟩ :: rest ∧
      ((∃ failure, acceptResponse operation [200, 201] reply = .error failure ∧ rest = [] ∧
          result = .error (normalizeTransportError failure operation .reconcile)) ∨
        ∃ response, acceptResponse operation [200, 201] reply = .ok response ∧
          Runs (next response) rest result) := by
  rw [post] at runs
  obtain ⟨reply, rest, isTrace, continues⟩ := runs.perform_cases
  refine ⟨reply, rest, isTrace, ?_⟩
  dsimp only [Program.bind] at continues
  split at continues
  · next response accepted => exact Or.inr ⟨response, accepted, continues⟩
  · next failure refused =>
      have stopped : Runs (.done (.error (normalizeTransportError failure operation .reconcile)))
          rest result := continues
      obtain ⟨ended, raised⟩ := stopped.done_cases
      exact Or.inl ⟨failure, refused, ended, raised⟩

theorem createBlobs_posts {artifacts : List GitHubArtifact}
    {result : Except GitHubEffectError (List NewTreeEntry)}
    (runs : Runs (createBlobs artifacts) trace result) :
    posts trace <+: blobBodies artifacts ∧ ∀ entries, result = .ok entries →
      posts trace = blobBodies artifacts ∧ ∃ blobShas, entries = newEntries artifacts blobShas := by
  induction artifacts generalizing trace result with
  | nil =>
      obtain ⟨rfl, rfl⟩ := runs.done_cases
      refine ⟨List.prefix_rfl, fun entries ended => ⟨rfl, [], ?_⟩⟩
      exact (Except.ok.inj ended).symm
  | cons artifact rest ih =>
      obtain ⟨reply, others, rfl, ⟨failure, _, rfl, rfl⟩ | ⟨response, _, continues⟩⟩ :=
        post_cases runs
      · exact ⟨⟨blobBodies rest, rfl⟩, fun entries ended => nomatch ended⟩
      rw [posts_post]
      rcases settle_cases continues with ⟨error, _, rfl, rfl⟩ | ⟨blobSha, _, continues⟩
      · exact ⟨⟨blobBodies rest, rfl⟩, fun entries ended => nomatch ended⟩
      rcases continues.bind_cases with ⟨error, part, rfl⟩ |
        ⟨before, after, entries, rfl, part, continues⟩
      · exact ⟨(List.prefix_cons_inj _).mpr (ih part).1, fun entries ended => nomatch ended⟩
      · obtain ⟨rfl, rfl⟩ := continues.done_cases
        obtain ⟨same, blobShas, isEntries⟩ := (ih part).2 entries rfl
        rw [List.append_nil, same]
        refine ⟨List.prefix_rfl, fun all ended => ⟨rfl, blobSha :: blobShas, ?_⟩⟩
        rw [← Except.ok.inj ended, isEntries]
        rfl

/-- The mutations of a branch are sent in their order, and all of them before the branch exists. -/
theorem createBranch_posts {baseTree : String} {result : Except GitHubEffectError String}
    (runs : Runs (createBranch input baseTree) trace result) : ∃ replies,
      replies.baseTree = baseTree ∧ posts trace <+: branchBodies input replies ∧
        ∀ headSha, result = .ok headSha → posts trace = branchBodies input replies ∧
          replies.headSha = headSha := by
  have none : ∀ {error : GitHubEffectError} {Claim : String → Prop} (headSha : String),
      (.error error : Except GitHubEffectError String) = .ok headSha → Claim headSha :=
    fun headSha ended => nomatch ended
  have begun : ∀ {rest all : List Mutation}, rest <+: all →
      blobBodies input.artifacts ++ rest <+: blobBodies input.artifacts ++ all :=
    (List.prefix_append_right_inj _).mpr
  rcases runs.bind_cases with ⟨error, part, rfl⟩ | ⟨before, after, entries, rfl, part, continues⟩
  · exact ⟨⟨baseTree, [], "", ""⟩, rfl, (createBlobs_posts part).1.trans (List.prefix_append _ _),
      none⟩
  obtain ⟨sent, blobShas, rfl⟩ := (createBlobs_posts part).2 entries rfl
  rw [posts_append, sent]
  obtain ⟨reply, trees, rfl, ⟨failure, _, rfl, rfl⟩ | ⟨response, _, continues⟩⟩ :=
    post_cases continues
  · exact ⟨⟨baseTree, blobShas, "", ""⟩, rfl, begun ⟨_, rfl⟩, none⟩
  rcases settle_cases continues with ⟨error, _, rfl, rfl⟩ | ⟨treeSha, _, continues⟩
  · exact ⟨⟨baseTree, blobShas, "", ""⟩, rfl, begun ⟨_, rfl⟩, none⟩
  obtain ⟨reply, commits, rfl, ⟨failure, _, rfl, rfl⟩ | ⟨response, _, continues⟩⟩ :=
    post_cases continues
  · exact ⟨⟨baseTree, blobShas, treeSha, ""⟩, rfl, begun ⟨_, rfl⟩, none⟩
  rcases settle_cases continues with ⟨error, _, rfl, rfl⟩ | ⟨headSha, _, continues⟩
  · exact ⟨⟨baseTree, blobShas, treeSha, ""⟩, rfl, begun ⟨_, rfl⟩, none⟩
  rcases settle_cases continues with ⟨error, _, rfl, rfl⟩ | ⟨head, named, continues⟩
  · exact ⟨⟨baseTree, blobShas, treeSha, ""⟩, rfl, begun ⟨_, rfl⟩, none⟩
  have isHead : headText input = head := by rw [headText, named]; rfl
  subst isHead
  refine ⟨⟨baseTree, blobShas, treeSha, headSha⟩, rfl, ?_⟩
  obtain ⟨reply, refs, rfl, ⟨failure, _, rfl, rfl⟩ | ⟨response, _, continues⟩⟩ :=
    post_cases continues
  · exact ⟨List.prefix_rfl, none⟩
  rcases settle_cases continues with ⟨error, _, rfl, rfl⟩ | ⟨done, _, continues⟩
  · exact ⟨List.prefix_rfl, none⟩
  · obtain ⟨rfl, rfl⟩ := continues.done_cases
    exact ⟨List.prefix_rfl, fun found ended => ⟨rfl, Except.ok.inj ended⟩⟩

theorem createPull_posts {headSha : String} {outcome : EffectOutcome}
    {result : Except GitHubEffectError GitHubReviewReceipt}
    (runs : Runs (createPull calendar options input headSha outcome) trace result) :
    posts trace <+: [pullBody input] := by
  rcases runs.bind_cases with ⟨error, part, rfl⟩ | ⟨before, after, listed, rfl, part, continues⟩
  · rw [silent_posts (pulls_avoids reads_silent) part]
    exact List.nil_prefix
  rw [posts_append, silent_posts (pulls_avoids reads_silent) part, List.nil_append]
  match listed with
  | [] =>
      rcases settle_cases continues with ⟨error, _, rfl, _⟩ | ⟨head, named, continues⟩
      · exact List.nil_prefix
      have isHead : headText input = head := by rw [headText, named]; rfl
      subst isHead
      obtain ⟨reply, rest, rfl, ⟨failure, _, rfl, _⟩ | ⟨response, _, continues⟩⟩ :=
        post_cases continues
      · exact List.prefix_rfl
      · have quiet : posts rest = [] := silent_posts (settle_avoids fun _ => Avoids.done _) continues
        rw [posts_post, quiet]
        exact List.prefix_rfl
  | [_] =>
      have quiet : posts after = [] := silent_posts (settle_avoids fun _ => Avoids.done _) continues
      rw [quiet]
      exact List.nil_prefix
  | _ :: _ :: _ =>
      rw [continues.done_cases.1]
      exact List.nil_prefix

/-- A creation sends the planned mutations in their order, and each of them once at most. -/
theorem create_posts {fingerprint : String} {result : Except GitHubEffectError GitHubReviewReceipt}
    (runs : Runs (create script calendar options input fingerprint) trace result) :
    ∃ replies, posts trace <+: postBodies input replies := by
  rcases runs.bind_cases with ⟨error, part, rfl⟩ | ⟨before, after, baseTree, rfl, part, continues⟩
  · rw [silent_posts (readBase_avoids (fun _ => reads_silent _) fun _ => reads_silent _) part]
    exact ⟨⟨"", [], "", ""⟩, List.nil_prefix⟩
  rw [posts_append, silent_posts (readBase_avoids (fun _ => reads_silent _) fun _ => reads_silent _) part, List.nil_append]
  rcases continues.bind_cases with ⟨error, part, rfl⟩ | ⟨before, after, done, rfl, part, continues⟩
  · rw [silent_posts (consume_silent _) part]
    exact ⟨⟨"", [], "", ""⟩, List.nil_prefix⟩
  rw [posts_append, silent_posts (consume_silent _) part, List.nil_append]
  rcases continues.bind_cases with ⟨error, part, rfl⟩ |
    ⟨before, after, headSha, rfl, part, continues⟩
  · obtain ⟨replies, _, sent, _⟩ := createBranch_posts part
    exact ⟨replies, sent.trans (List.prefix_append _ _)⟩
  · obtain ⟨replies, _, _, sent⟩ := createBranch_posts part
    rw [posts_append, (sent headSha rfl).1]
    exact ⟨replies, (List.prefix_append_right_inj _).mpr (createPull_posts continues)⟩

end Creation

end LineageGuard.Github
