import LineageGuard.Guarantees.EffectBinding
import Mathlib.Tactic

/-
This file proves what precedes each mutation of the live GitHub port.
-/

namespace LineageGuard.Github

open Json Domain Attempt Dialogue

section Evidence

/-- The authority acknowledged the consumption of this effect. -/
def Consumed (fingerprint : String) (past : Trace) : Prop :=
  ∃ consumed, (⟨.consumeCurrentEffect fingerprint, .answered consumed⟩ : Exchange _ _) ∈ past ∧
    consumed.canonicalEffectFingerprint = fingerprint

/-- The server answered that the branch does not exist. -/
def BranchAbsent (head : String) (past : Trace) : Prop :=
  ∃ response, (⟨.get (.branch head), .ok response⟩ : Exchange _ _) ∈ past ∧ response.status = 404

/-- The server answered that the branch exists and the body is no object. -/
def BranchUnreadable (head : String) (past : Trace) : Prop :=
  ∃ response, (⟨.get (.branch head), .ok response⟩ : Exchange _ _) ∈ past ∧
    response.status = 200 ∧ object (some response.body) = none

/-- The tree of the base commit was read and has room for every artifact. -/
def BaseVerified (input : GitHubReviewRequest) (past : Trace) : Prop :=
  ∃ commit tree baseTree basePaths,
    (⟨.get (.commit input.baseSha), .ok commit⟩ : Exchange _ _) ∈ past ∧
    text (member (object (some commit.body)) "sha") = some input.baseSha ∧
    text (member (object (member (object (some commit.body)) "tree")) "sha") = some baseTree ∧
    (⟨.get (.tree baseTree), .ok tree⟩ : Exchange _ _) ∈ past ∧
    parseTreeResponse tree.body baseTree .readBaseCommit = .ok basePaths ∧
    input.artifacts.all (baseAccepts basePaths) = true

/-- Every mutation follows the consumption of the effect, the absence of the branch and the base
tree, and the mutations are the planned ones, each of them once at most. -/
def MutationSafe (script : Script) (input : GitHubReviewRequest) (trace : Trace) : Prop :=
  (∀ before mutation reply after, trace = before ++ ⟨.post mutation, reply⟩ :: after →
    (∃ fingerprint, githubEffectFingerprint script input = .ok fingerprint ∧
      Consumed fingerprint before) ∧
    BranchAbsent (headText input) before ∧ BaseVerified input before) ∧
  ∃ replies, posts trace <+: postBodies input replies

/-- The branch was readable before the first mutation. -/
def ReadableBranch (input : GitHubReviewRequest) (trace : Trace) : Prop :=
  ∀ before mutation reply after, trace = before ++ ⟨.post mutation, reply⟩ :: after →
    posts before = [] → ¬ BranchUnreadable (headText input) before

end Evidence

section Reads

variable {operation : GitHubOperation} {accepted : List ℕ} {resource : Resource}
variable {options : LiveGitHubOptions} {trace : Trace} {response : GitHubHttpResponse}

/-- A failed read is repeated only for an error that asks for it. -/
def Retried (operation : GitHubOperation) (accepted : List ℕ) (resource : Resource)
    (exchange : Exchange PortCall PortReply) : Prop :=
  ∃ reply error, exchange = ⟨.get resource, reply⟩ ∧
    acceptResponse operation accepted reply = .error error ∧
    (normalizeTransportError error operation .retry).retry = .retry

/-- A read ends with the response that it returns. -/
theorem getTimes_ok {attempts : ℕ}
    (runs : Runs (getTimes operation accepted resource attempts) trace (.ok response)) :
    ∃ failures, trace = failures ++ [⟨.get resource, .ok response⟩] ∧
      response.status ∈ accepted ∧ ∀ exchange ∈ failures, Retried operation accepted resource exchange := by
  induction attempts generalizing trace with
  | zero => cases runs.done_cases.2
  | succ attempts ih =>
      rw [getTimes] at runs
      obtain ⟨reply, rest, rfl, continues⟩ := runs.perform_cases
      split at continues
      · next found isFound =>
          obtain ⟨rfl, ended⟩ := continues.done_cases
          cases ended
          simp only [acceptResponse, bind_ok, reject_ok, require_ok, exists_const, pure_ok]
            at isFound
          obtain ⟨_, rfl, _, within, rfl⟩ := isFound
          exact ⟨[], rfl, within, by simp⟩
      · next error isError =>
          dsimp only at continues
          split at continues
          · cases continues.done_cases.2
          · next repeated =>
              rw [not_or, not_not] at repeated
              obtain ⟨failures, rfl, within, each⟩ := ih continues
              refine ⟨⟨.get resource, reply⟩ :: failures, rfl, within, ?_⟩
              intro exchange present
              rcases List.mem_cons.mp present with rfl | present
              · exact ⟨reply, error, rfl, isError, repeated.1⟩
              · exact each exchange present

end Reads

section Parts

variable {script : Script} {calendar : Calendar} {options : LiveGitHubOptions}
variable {input : GitHubReviewRequest} {trace : Trace} {head : String}

theorem bind_value {Result Final : Type} {first : Dialog Result} {next : Result → Dialog Final}
    {final : Final} (runs : Runs (first >>= next) trace (.ok final)) :
    ∃ before after value, trace = before ++ after ∧ Runs first before (.ok value) ∧
      Runs (next value) after (.ok final) := by
  rcases runs.bind_cases with ⟨error, _, raised⟩ | continued
  · exact nomatch raised
  · exact continued

theorem settle_value {Result Final : Type} {outcome : Except GitHubEffectError Result}
    {next : Result → Dialog Final} {final : Final}
    (runs : Runs (settle outcome >>= next) trace (.ok final)) :
    ∃ value, outcome = .ok value ∧ Runs (next value) trace (.ok final) := by
  rcases settle_cases runs with ⟨error, _, _, raised⟩ | continued
  · exact nomatch raised
  · exact continued

/-- The response decides that the branch counts as missing. -/
def Missing (response : GitHubHttpResponse) : Prop :=
  response.status = 404 ∨ (response.status = 200 ∧ object (some response.body) = none)

def Decisive (head : String) (exchange : Exchange PortCall PortReply) : Prop :=
  ∃ response, exchange = ⟨.get (.branch head), .ok response⟩ ∧ Missing response

/-- A read that is repeated decides nothing. -/
theorem retried_undecided {operation : GitHubOperation} {accepted : List ℕ} {resource : Resource}
    {exchange : Exchange PortCall PortReply} (known : 200 ∈ accepted)
    (retried : Retried operation accepted resource exchange) : ¬ Decisive head exchange := by
  rintro ⟨response, rfl, missing⟩
  obtain ⟨reply, error, same, refused, again⟩ := retried
  obtain ⟨sameCall, sameReply⟩ := Exchange.mk.inj same
  obtain rfl : resource = .branch head := (PortCall.get.inj sameCall).symm
  obtain rfl := eq_of_heq sameReply
  have direct : ¬ (300 ≤ response.status ∧ response.status < 400) := by
    rcases missing with absent | ⟨found, _⟩ <;> omega
  by_cases within : response.status ∈ accepted
  · simp [acceptResponse, reject, require, direct, within, bind, Except.bind, pure, Except.pure]
      at refused
  · have status : response.status = 404 := by
      rcases missing with absent | ⟨found, _⟩
      · exact absent
      · rw [found] at within
        exact absurd known within
    simp [acceptResponse, reject, require, direct, within, bind, Except.bind] at refused
    rw [← refused] at again
    simp [normalizeTransportError, statusError, status] at again

/-- A branch that passes the check of the base decides nothing about the head. -/
theorem verify_undecided (runs : Runs (verifyRepositoryAndBase options input) trace (.ok ())) :
    ∀ exchange ∈ trace, ¬ Decisive head exchange := by
  obtain ⟨before, after, repository, rfl, readRepository, runs⟩ := bind_value runs
  obtain ⟨_, _, runs⟩ := settle_value runs
  obtain ⟨middle, last, base, rfl, readBranch, runs⟩ := bind_value runs
  obtain ⟨rfl, settled⟩ := runs.done_cases
  obtain ⟨isBase, _⟩ := require_ok.mp settled.symm
  obtain ⟨failures, rfl, _, eachFirst⟩ := getTimes_ok readRepository
  obtain ⟨others, rfl, within, eachSecond⟩ := getTimes_ok readBranch
  intro exchange present
  simp only [List.mem_append, List.mem_singleton, List.not_mem_nil, or_false] at present
  rcases present with (early | rfl) | late | rfl
  · exact retried_undecided (by decide) (eachFirst _ early)
  · rintro ⟨response, same, _⟩
    cases same
  · exact retried_undecided (by decide) (eachSecond _ late)
  · rintro ⟨response, same, missing⟩
    cases same
    rcases missing with absent | ⟨_, unreadable⟩
    · rw [absent] at within
      exact absurd within (by decide)
    · rw [unreadable] at isBase
      cases isBase

/-- The last response of the branch decides that it is missing. -/
theorem getHead_none (named : headName input = .ok head)
    (runs : Runs (getHead options input) trace (.ok none)) :
    ∃ failures response, trace = failures ++ [⟨.get (.branch head), .ok response⟩] ∧
      Missing response ∧ ∀ exchange ∈ failures, ¬ Decisive head exchange := by
  obtain ⟨name, isName, runs⟩ := settle_value runs
  obtain rfl : head = name := Except.ok.inj (named.symm.trans isName)
  obtain ⟨before, after, response, rfl, read, runs⟩ := bind_value runs
  obtain ⟨rfl, found⟩ := runs.done_cases
  obtain ⟨failures, rfl, within, each⟩ := getTimes_ok read
  refine ⟨failures, response, by simp, ?_, fun exchange present =>
    retried_undecided (by decide) (each exchange present)⟩
  have result : (if response.status = 404 then none else object (some response.body)) = none :=
    (Except.ok.inj found).symm
  split at result
  · next absent => exact Or.inl absent
  · next other =>
      have status : response.status = 200 := by simpa [other] using within
      exact Or.inr ⟨status, result⟩

theorem reconcile_none {outcome : EffectOutcome}
    (runs : Runs (reconcile script calendar options input false outcome) trace (.ok none)) :
    Runs (getHead options input) trace (.ok none) := by
  obtain ⟨before, after, found, rfl, read, runs⟩ := bind_value runs
  cases found with
  | none =>
      rw [runs.done_cases.1, List.append_nil]
      exact read
  | some ref =>
      obtain ⟨_, _, runs⟩ := settle_value runs
      obtain ⟨_, _, runs⟩ := settle_value runs
      obtain ⟨_, _, _, _, _, runs⟩ := bind_value runs
      obtain ⟨_, _, runs⟩ := settle_value runs
      obtain ⟨_, _, _, _, _, runs⟩ := bind_value runs
      obtain ⟨_, _, listed, _, _, runs⟩ := bind_value runs
      match listed with
      | [] => exact nomatch runs.done_cases.2
      | [_] =>
          obtain ⟨_, _, runs⟩ := settle_value runs
          obtain ⟨_, _, runs⟩ := settle_value runs
          exact nomatch runs.done_cases.2
      | _ :: _ :: _ => exact nomatch runs.done_cases.2

theorem readBase_verified {baseTree : String}
    (runs : Runs (readBase options input) trace (.ok baseTree)) : BaseVerified input trace := by
  obtain ⟨before, after, commit, rfl, readCommit, runs⟩ := bind_value runs
  obtain ⟨treeSha, isTree, runs⟩ := settle_value runs
  obtain ⟨_, isCommit, runs⟩ := settle_value runs
  obtain ⟨middle, last, tree, rfl, readTree, runs⟩ := bind_value runs
  obtain ⟨basePaths, parsed, runs⟩ := settle_value runs
  obtain ⟨_, fitting, runs⟩ := settle_value runs
  obtain ⟨failures, rfl, _, _⟩ := getTimes_ok readCommit
  obtain ⟨others, rfl, _, _⟩ := getTimes_ok readTree
  exact ⟨commit, tree, treeSha, basePaths, by simp, (require_ok.mp isCommit).1,
    present_ok.mp isTree, by simp, parsed, require_ok.mp fitting⟩

theorem consume_acknowledged {fingerprint : String}
    (runs : Runs (consume script calendar input fingerprint) trace (.ok ())) :
    githubEffectFingerprint script input = .ok fingerprint ∧ Consumed fingerprint trace := by
  obtain ⟨computed, isComputed, runs⟩ := settle_value runs
  obtain ⟨_, same, runs⟩ := settle_value runs
  rw [require_ok] at same
  subst same
  refine ⟨isComputed, ?_⟩
  obtain ⟨reply, rest, rfl, continues⟩ := runs.perform_cases
  cases reply with
  | failed => exact nomatch continues.done_cases.2
  | malformed => exact nomatch continues.done_cases.2
  | answered consumed =>
      obtain ⟨_, acknowledged, _⟩ := settle_value continues
      exact ⟨consumed, List.mem_cons_self, require_ok.mp acknowledged⟩

theorem createBranch_starts {baseTree : String} {result : Except GitHubEffectError String}
    (runs : Runs (createBranch input baseTree) trace result) :
    ∃ mutation reply rest, trace = ⟨.post mutation, reply⟩ :: rest := by
  rw [createBranch] at runs
  cases artifacts : input.artifacts with
  | nil =>
      rw [artifacts] at runs
      obtain ⟨reply, rest, isTrace, _⟩ := post_cases runs
      exact ⟨_, reply, rest, isTrace⟩
  | cons artifact others =>
      rw [artifacts, createBlobs, Program.bind_assoc] at runs
      obtain ⟨reply, rest, isTrace, _⟩ := post_cases runs
      exact ⟨_, reply, rest, isTrace⟩

end Parts

section Safety

variable {script : Script} {calendar : Calendar} {options : LiveGitHubOptions}
variable {input : GitHubReviewRequest} {trace : Trace} {head : String}

/-- A creation sends nothing or consumes the effect and verifies the base before it sends. -/
theorem create_shape {fingerprint : String}
    {result : Except GitHubEffectError GitHubReviewReceipt}
    (runs : Runs (create script calendar options input fingerprint) trace result) :
    posts trace = [] ∨ ∃ quiet mutation reply rest,
      trace = quiet ++ ⟨.post mutation, reply⟩ :: rest ∧ posts quiet = [] ∧
      githubEffectFingerprint script input = .ok fingerprint ∧ Consumed fingerprint quiet ∧
      BaseVerified input quiet ∧ ∀ exchange ∈ quiet, ¬ Decisive head exchange := by
  have unread : ∀ sha reply, ¬ Decisive head ⟨.get (.commit sha), reply⟩ := by
    rintro sha reply ⟨response, same, _⟩
    cases same
  have untold : ∀ sha reply, ¬ Decisive head ⟨.get (.tree sha), reply⟩ := by
    rintro sha reply ⟨response, same, _⟩
    cases same
  have clock : ∀ now, ¬ Decisive head ⟨.clock, now⟩ := by
    rintro now ⟨response, same, _⟩
    cases same
  have spent : ∀ reply, ¬ Decisive head ⟨.consumeCurrentEffect fingerprint, reply⟩ := by
    rintro reply ⟨response, same, _⟩
    cases same
  have baseSilent : Silent (readBase options input) :=
    readBase_avoids (fun _ => reads_silent _) fun _ => reads_silent _
  rcases runs.bind_cases with ⟨error, part, _⟩ | ⟨base, after, baseTree, rfl, readBase, continues⟩
  · exact Or.inl (silent_posts baseSilent part)
  rcases continues.bind_cases with ⟨error, part, _⟩ |
    ⟨consumption, after, done, rfl, consumed, continues⟩
  · left
    rw [posts_append, silent_posts baseSilent readBase, silent_posts (consume_silent _) part]
    rfl
  right
  obtain ⟨isFingerprint, acknowledged⟩ := consume_acknowledged consumed
  have starts : ∃ mutation reply rest, after = ⟨.post mutation, reply⟩ :: rest := by
    rcases continues.bind_cases with ⟨error, part, _⟩ | ⟨branch, last, sha, rfl, part, _⟩
    · exact createBranch_starts part
    · obtain ⟨mutation, reply, rest, rfl⟩ := createBranch_starts part
      exact ⟨mutation, reply, rest ++ last, rfl⟩
  obtain ⟨mutation, reply, rest, rfl⟩ := starts
  refine ⟨base ++ consumption, mutation, reply, rest, (List.append_assoc _ _ _).symm, ?_,
    isFingerprint, ?_, ?_, ?_⟩
  · rw [posts_append, silent_posts baseSilent readBase, silent_posts (consume_silent _) consumed]
    rfl
  · obtain ⟨answer, present, same⟩ := acknowledged
    exact ⟨answer, List.mem_append_right _ present, same⟩
  · obtain ⟨commit, tree, baseTree, basePaths, readCommit, isCommit, isTree, readTree, parsed,
      fitting⟩ := readBase_verified readBase
    exact ⟨commit, tree, baseTree, basePaths, List.mem_append_left _ readCommit, isCommit, isTree,
      List.mem_append_left _ readTree, parsed, fitting⟩
  · intro exchange present
    rcases List.mem_append.mp present with early | late
    · exact readBase_avoids unread untold _ _ readBase exchange early
    · exact consume_avoids clock spent _ _ consumed exchange late

/-- The branch counts as missing through one response. -/
def DecidedBy (head : String) (past : Trace) (response : GitHubHttpResponse) : Prop :=
  (⟨.get (.branch head), .ok response⟩ : Exchange _ _) ∈ past ∧ Missing response ∧
    ∀ exchange ∈ past, Decisive head exchange → exchange = ⟨.get (.branch head), .ok response⟩

/-- A review is over without a mutation or its creation follows a missing branch. -/
theorem review_creation {result : Except GitHubEffectError GitHubReviewReceipt}
    (runs : Runs (createMigrationReview script calendar options input) trace result) :
    posts trace = [] ∨ ∃ before creation after fingerprint response outcome,
      trace = before ++ creation ++ after ∧ posts before = [] ∧ posts after = [] ∧
      Runs (create script calendar options input fingerprint) creation outcome ∧
      DecidedBy (headText input) before response := by
  have clock : ∀ now, ¬ Decisive (headText input) ⟨.clock, now⟩ := by
    rintro now ⟨response, same, _⟩
    cases same
  have asked : ∀ fingerprint reply, ¬ Decisive (headText input)
      ⟨.verifyCurrentEffectReservation fingerprint, reply⟩ := by
    rintro fingerprint reply ⟨response, same, _⟩
    cases same
  have quietStart : Silent (resolveAuthorization script calendar input) :=
    resolveAuthorization_avoids clock_silent fun _ _ sent => sent rfl
  have quietBase : Silent (verifyRepositoryAndBase options input) :=
    verifyRepositoryAndBase_avoids reads_silent
  have quietFound : Silent (reconcile script calendar options input false .skippedExact) :=
    reconcile_avoids reads_silent _ _
  rcases settle_cases runs with ⟨error, _, rfl, _⟩ | ⟨done, accepted, continues⟩
  · exact Or.inl rfl
  have named := accepted_head (validateRequest_ok.mp accepted).1
  rcases continues.bind_cases with ⟨error, part, _⟩ |
    ⟨start, after, authorization, rfl, resolved, continues⟩
  · exact Or.inl (silent_posts quietStart part)
  rcases continues.bind_cases with ⟨error, part, _⟩ |
    ⟨base, after, done, rfl, verified, continues⟩
  · left
    rw [posts_append, silent_posts quietStart resolved, silent_posts quietBase part]
    rfl
  have quiet : posts start = [] ∧ posts base = [] :=
    ⟨silent_posts quietStart resolved, silent_posts quietBase verified⟩
  rcases continues.bind_cases with ⟨error, part, _⟩ |
    ⟨middle, after, found, rfl, reconciled, ends⟩
  · left
    rw [posts_append, posts_append, quiet.1, quiet.2, silent_posts quietFound part]
    rfl
  have silentMiddle := silent_posts quietFound reconciled
  cases found with
  | some receipt =>
      left
      rw [posts_append, posts_append, posts_append, quiet.1, quiet.2, silentMiddle,
        ends.done_cases.1]
      rfl
  | none =>
      obtain ⟨failures, response, rfl, missing, undecided⟩ :=
        getHead_none named (reconcile_none reconciled)
      have silent : posts (start ++ base ++
          (failures ++ [⟨.get (.branch (headText input)), .ok response⟩])) = [] := by
        rw [posts_append, posts_append, quiet.1, quiet.2, silentMiddle]
        rfl
      have decided : DecidedBy (headText input) (start ++ base ++
          (failures ++ [⟨.get (.branch (headText input)), .ok response⟩])) response := by
        refine ⟨by simp, missing, fun exchange present decisive => ?_⟩
        simp only [List.mem_append, List.mem_singleton] at present
        rcases present with (early | early) | early | rfl
        · exact absurd decisive
            (resolveAuthorization_avoids clock asked _ _ resolved exchange early)
        · exact absurd decisive (verify_undecided verified exchange early)
        · exact absurd decisive (undecided exchange early)
        · rfl
      change Runs (if authorization.state = .consumed then _ else _) after result at ends
      split at ends
      · left
        rw [posts_append, posts_append, posts_append, quiet.1, quiet.2, silentMiddle,
          ends.done_cases.1]
        rfl
      · right
        rcases ends.recover_cases with ⟨value, part, _⟩ |
          ⟨creation, recovery, error, rfl, part, recovered⟩
        · exact ⟨_, after, [], _, response, _, by simp, silent, rfl, part, decided⟩
        · exact ⟨_, creation, recovery, _, response, _, by simp, silent,
            silent_posts (recoverCreation_avoids reads_silent error) recovered, part, decided⟩

/-- What precedes the first mutation precedes every mutation. -/
theorem quiet_begins {quiet rest before after : Trace} {mutation : Mutation}
    {reply : PortReply (.post mutation)} (silent : posts quiet = [])
    (split : quiet ++ rest = before ++ ⟨.post mutation, reply⟩ :: after) : quiet <+: before := by
  rcases List.prefix_or_prefix_of_prefix (List.prefix_append quiet rest)
    (split ▸ List.prefix_append before _) with shorter | ⟨more, rfl⟩
  · exact shorter
  · cases more with
    | nil => exact ⟨[], by simp⟩
    | cons exchange others =>
        rw [List.append_assoc, List.append_cancel_left_eq, List.cons_append, List.cons.injEq]
          at split
        rw [split.1, posts_append, posts_post] at silent
        simp at silent

theorem Consumed.mono {fingerprint : String} {past later : Trace} (within : past ⊆ later)
    (consumed : Consumed fingerprint past) : Consumed fingerprint later :=
  consumed.imp fun _ found => ⟨within found.1, found.2⟩

theorem BaseVerified.mono {past later : Trace} (within : past ⊆ later)
    (verified : BaseVerified input past) : BaseVerified input later := by
  obtain ⟨commit, tree, baseTree, basePaths, readCommit, isCommit, isTree, readTree, rest⟩ := verified
  exact ⟨commit, tree, baseTree, basePaths, within readCommit, isCommit, isTree, within readTree,
    rest⟩

/-- These facts hold at the first mutation of a review. -/
structure FirstMutation (script : Script) (input : GitHubReviewRequest) (trace quiet : Trace)
    (response : GitHubHttpResponse) : Prop where
  starts : ∃ mutation reply rest, trace = quiet ++ ⟨.post mutation, reply⟩ :: rest
  silent : posts quiet = []
  consumed : ∃ fingerprint, githubEffectFingerprint script input = .ok fingerprint ∧
    Consumed fingerprint quiet
  verified : BaseVerified input quiet
  decided : DecidedBy (headText input) quiet response

theorem review_shape {result : Except GitHubEffectError GitHubReviewReceipt}
    (runs : Runs (createMigrationReview script calendar options input) trace result) :
    (∃ replies, posts trace <+: postBodies input replies) ∧
      (posts trace = [] ∨ ∃ quiet response, FirstMutation script input trace quiet response) := by
  rcases review_creation runs with silent | ⟨before, creation, after, fingerprint, response, outcome,
    rfl, quietBefore, quietAfter, created, isRead, missing, single⟩
  · rw [silent]
    exact ⟨⟨⟨"", [], "", ""⟩, List.nil_prefix⟩, Or.inl rfl⟩
  rw [posts_append, posts_append, quietBefore, quietAfter, List.append_nil, List.nil_append]
  refine ⟨create_posts created, ?_⟩
  rcases @create_shape _ _ _ _ _ (headText input) _ _ created with
    silent | ⟨quiet, mutation, reply, rest, rfl, silent, isFingerprint, consumed, verified, undecided⟩
  · exact Or.inl silent
  refine Or.inr ⟨before ++ quiet, response, ?_, ?_, ⟨fingerprint, isFingerprint, ?_⟩, ?_,
    List.mem_append_left _ isRead, missing, ?_⟩
  · exact ⟨mutation, reply, rest ++ after, by simp⟩
  · rw [posts_append, quietBefore, silent]
    rfl
  · exact consumed.mono (List.subset_append_right _ _)
  · exact verified.mono (List.subset_append_right _ _)
  · intro exchange present decisive
    rcases List.mem_append.mp present with early | late
    · exact single exchange early decisive
    · exact absurd decisive (undecided exchange late)

/-- The live port keeps its mutations safe exactly when the branch is readable. -/
theorem mutation_safe (script : Script) (calendar : Calendar) (options : LiveGitHubOptions)
    (input : GitHubReviewRequest) (trace : Trace)
    (result : Except GitHubEffectError GitHubReviewReceipt)
    (runs : Runs (createMigrationReview script calendar options input) trace result) :
    MutationSafe script input trace ↔ ReadableBranch input trace := by
  obtain ⟨planned, silent | ⟨quiet, response, first⟩⟩ := review_shape runs
  · have unsent : ∀ {before mutation reply after},
        trace ≠ before ++ ⟨.post mutation, reply⟩ :: after := by
      rintro before mutation reply after rfl
      simp at silent
    exact iff_of_true ⟨fun _ _ _ _ split => absurd split unsent, planned⟩
      fun _ _ _ _ split => absurd split unsent
  obtain ⟨mutation, reply, rest, isTrace⟩ := first.starts
  obtain ⟨isRead, missing, single⟩ := first.decided
  constructor
  · rintro ⟨safe, _⟩ before other answer after split silent ⟨unreadable, isOther, status, _⟩
    obtain ⟨_, ⟨absent, isAbsent, gone⟩, _⟩ := safe quiet mutation reply rest isTrace
    -- Both beginnings end before the first mutation.
    have forward := quiet_begins first.silent (isTrace.symm.trans split)
    have backward := quiet_begins silent (split.symm.trans isTrace)
    obtain rfl : before = quiet := backward.eq_of_length_le forward.length_le
    have sameAbsent := single _ isAbsent ⟨absent, rfl, Or.inl gone⟩
    have sameUnreadable := single _ isOther ⟨unreadable, rfl, Or.inr ⟨status, ‹_›⟩⟩
    cases sameAbsent
    cases sameUnreadable
    rw [status] at gone
    exact absurd gone (by decide)
  · intro readable
    have gone : response.status = 404 := by
      rcases missing with gone | unreadable
      · exact gone
      · exact absurd ⟨response, isRead, unreadable⟩
          (readable quiet mutation reply rest isTrace first.silent)
    refine ⟨fun before other answer after split => ?_, planned⟩
    have within := (quiet_begins first.silent (isTrace.symm.trans split)).subset
    obtain ⟨fingerprint, isFingerprint, consumed⟩ := first.consumed
    exact ⟨⟨fingerprint, isFingerprint, consumed.mono within⟩, ⟨response, within isRead, gone⟩,
      first.verified.mono within⟩

end Safety

section Samples

theorem settle_runs {Result Final : Type} {outcome : Except GitHubEffectError Result}
    {value : Result} {next : Result → Dialog Final} {trace : Trace}
    {result : Except GitHubEffectError Final} (settled : outcome = .ok value)
    (runs : Runs (next value) trace result) : Runs (settle outcome >>= next) trace result := by
  subst settled
  exact runs

theorem require_runs {Final : Type} {condition : Prop} [Decidable condition]
    {error : GitHubEffectError} {next : Unit → Dialog Final} {trace : Trace}
    {result : Except GitHubEffectError Final} (holds : condition)
    (runs : Runs (next ()) trace result) :
    Runs (settle (require condition error) >>= next) trace result :=
  settle_runs (require_ok.mpr holds) runs

theorem ask_runs {Final : Type} {call : PortCall} {reply : PortReply call}
    {next : PortReply call → Dialog Final} {trace : Trace} {result : Except GitHubEffectError Final}
    (runs : Runs (next reply) trace result) :
    Runs (ask call >>= next) (⟨call, reply⟩ :: trace) result := Runs.ask reply runs

/-- A read that is accepted at once continues with its response. -/
theorem get_runs {Final : Type} {options : LiveGitHubOptions} {operation : GitHubOperation}
    {resource : Resource} {accepted : List ℕ} {response : GitHubHttpResponse}
    {next : GitHubHttpResponse → Dialog Final} {trace : Trace}
    {result : Except GitHubEffectError Final} (single : options.maxAttempts = 1)
    (answered : acceptResponse operation accepted (.ok response) = .ok response)
    (runs : Runs (next response) trace result) :
    Runs (get options operation resource accepted >>= next)
      (⟨.get resource, .ok response⟩ :: trace) result := by
  rw [get, single, getTimes]
  apply Runs.ask
  dsimp only [Program.bind]
  rw [answered]
  exact runs

/-- The authority knows the fingerprint of the request. -/
def sampleSigned : GitHubReviewRequest :=
  { sampleReview firstSurrogate with inputFingerprint := hexText (123 * 16 ^ 60) }

theorem sampleSigned_fields : AcceptedFields sampleOptions sampleSigned := by
  have fields := (validateRequest_ok.mp (sampleReview_accepted 0)).1
  exact { fields with fingerprints := by decide }

theorem sampleSigned_accepted :
    validateRequest sampleScript sampleOptions sampleSigned = .ok () := by
  obtain ⟨_, artifacts⟩ := validateRequest_ok.mp (sampleReview_accepted 0)
  exact validateRequest_ok.mpr ⟨sampleSigned_fields, artifacts.count, artifacts.ordered,
    artifacts.single, artifacts.observed, artifacts.each⟩

theorem sampleSigned_fingerprint : githubEffectFingerprint sampleScript sampleSigned =
    .ok (hexText (123 * 16 ^ 60)) := accepted_fingerprint sampleSigned_fields

def sampleAnswer (body : Value) : GitHubHttpResponse := ⟨200, body⟩

def sampleRepository : GitHubHttpResponse :=
  ⟨200, .object [("full_name", .string "o/r"),
    ("permissions", .object [("push", .bool true), ("pull", .bool true)])]⟩

def sampleBase : GitHubHttpResponse :=
  ⟨200, .object [("ref", .string "refs/heads/main"),
    ("object", .object [("type", .string "commit"), ("sha", .string sampleSha)])]⟩

def sampleCommit : GitHubHttpResponse :=
  ⟨200, .object [("sha", .string sampleSha), ("tree", .object [("sha", .string sampleSha)])]⟩

def sampleTree : GitHubHttpResponse :=
  ⟨200, .object [("sha", .string sampleSha), ("truncated", .bool false), ("tree", .array [])]⟩

def sampleHead : String := headText sampleSigned

def sampleAuthorization : GitHubEffectAuthorization :=
  ⟨sampleDetails.effectReservationId, hexText (123 * 16 ^ 60), .reserved, sampleDate⟩

def sampleConsumption : ConsumedAuthorization :=
  ⟨hexText (123 * 16 ^ 60), sampleDate, sampleDetails.effectReservationId⟩

/-- The first mutation fails after the branch counted as missing. -/
def sampleTrace (branch : GitHubHttpResponse) : Trace :=
  [⟨.verifyCurrentEffectReservation (hexText (123 * 16 ^ 60)), .answered sampleAuthorization⟩,
    ⟨.clock, (0 : ℤ)⟩, ⟨.clock, (0 : ℤ)⟩,
    ⟨.get .repository, .ok sampleRepository⟩, ⟨.get (.branch "main"), .ok sampleBase⟩,
    ⟨.get (.branch sampleHead), .ok branch⟩,
    ⟨.get (.commit sampleSha), .ok sampleCommit⟩, ⟨.get (.tree sampleSha), .ok sampleTree⟩,
    ⟨.consumeCurrentEffect (hexText (123 * 16 ^ 60)), .answered sampleConsumption⟩,
    ⟨.clock, (0 : ℤ)⟩, ⟨.clock, (0 : ℤ)⟩,
    ⟨.post (.blob [.surrogate firstSurrogate]), .error .other⟩,
    ⟨.get (.branch sampleHead), .ok ⟨404, .null⟩⟩]

theorem sample_current {Final : Type} {next : Bool → Dialog Final} {trace : Trace}
    {result : Except GitHubEffectError Final} (runs : Runs (next true) trace result) :
    Runs (validInvokeBy sampleCalendar sampleDate >>= next)
      (⟨.clock, (0 : ℤ)⟩ :: ⟨.clock, (0 : ℤ)⟩ :: trace) result := by
  have parsed : sampleCalendar.parseDate sampleDate = some 0 := by simp [sampleCalendar]
  have written : ¬ sampleCalendar.toISOString 0 ≠ sampleDate := fun other => other rfl
  rw [validInvokeBy, parsed]
  simp only [if_neg written]
  rw [Program.bind_assoc]
  refine ask_runs ?_
  rw [if_neg (lt_irrefl _), Program.bind_assoc]
  exact ask_runs runs

theorem getHead_runs {Final : Type} {next : Option Members → Dialog Final} {trace : Trace}
    {result : Except GitHubEffectError Final} {branch : GitHubHttpResponse}
    (missing : Missing branch) (runs : Runs (next none) trace result) :
    Runs (getHead sampleOptions sampleSigned >>= next)
      (⟨.get (.branch sampleHead), .ok branch⟩ :: trace) result := by
  have answered : acceptResponse .reconcile [200, 404] (.ok branch) = .ok branch := by
    rcases missing with absent | ⟨found, _⟩
    · simp [acceptResponse, reject, require, absent, bind, Except.bind, pure, Except.pure]
    · simp [acceptResponse, reject, require, found, bind, Except.bind, pure, Except.pure]
  have found : (if branch.status = 404 then none else object (some branch.body)) = none := by
    rcases missing with absent | ⟨found, unreadable⟩
    · exact if_pos absent
    · rw [found, if_neg (by decide), unreadable]
  rw [getHead, Program.bind_assoc]
  refine settle_runs (accepted_head sampleSigned_fields) ?_
  rw [Program.bind_assoc]
  refine get_runs rfl answered ?_
  rw [found]
  exact runs

def sampleFailure : GitHubEffectError :=
  failed .transportAmbiguous .createBlob .reconcile "GitHub transport failed"

theorem sample_creation :
    Runs (create sampleScript sampleCalendar sampleOptions sampleSigned (hexText (123 * 16 ^ 60)))
      [⟨.get (.commit sampleSha), .ok sampleCommit⟩, ⟨.get (.tree sampleSha), .ok sampleTree⟩,
        ⟨.consumeCurrentEffect (hexText (123 * 16 ^ 60)), .answered sampleConsumption⟩,
        ⟨.clock, (0 : ℤ)⟩, ⟨.clock, (0 : ℤ)⟩, ⟨.post (.blob [.surrogate firstSurrogate]), .error .other⟩]
      (.error sampleFailure) := by
  rw [create, readBase, Program.bind_assoc]
  refine get_runs rfl rfl ?_
  rw [Program.bind_assoc]
  have isTree : text (member (object (member (object (some sampleCommit.body)) "tree")) "sha") =
      some sampleSha := by decide
  refine settle_runs (present_ok.mpr isTree) ?_
  rw [Program.bind_assoc]
  refine require_runs (by decide) ?_
  rw [Program.bind_assoc]
  refine get_runs rfl rfl ?_
  have parsed : parseTreeResponse sampleTree.body sampleSha .readBaseCommit = .ok [] := by
    decide
  rw [Program.bind_assoc]
  refine settle_runs parsed ?_
  rw [Program.bind_assoc]
  refine require_runs (by decide) ?_
  show Runs (consume sampleScript sampleCalendar sampleSigned _ >>= _) _ _
  rw [consume, Program.bind_assoc]
  refine settle_runs sampleSigned_fingerprint ?_
  rw [Program.bind_assoc]
  refine require_runs rfl ?_
  rw [Program.bind_assoc]
  refine ask_runs ?_
  rw [Program.bind_assoc]
  refine require_runs rfl ?_
  rw [Program.bind_assoc]
  refine sample_current ?_
  refine require_runs ⟨rfl, by decide⟩ ?_
  apply Runs.bind_error
  rw [createBranch]
  apply Runs.bind_error
  have sent : Runs (post .createBlob (.blob [.surrogate firstSurrogate]))
      [⟨.post (.blob [.surrogate firstSurrogate]), .error .other⟩] (.error sampleFailure) := by
    rw [post]
    exact ask_runs (.done _)
  exact sent.bind_error

theorem sample_recovery (failure : GitHubEffectError) (goesOn : failure.retry ≠ .never) :
    Runs (recoverCreation sampleScript sampleCalendar sampleOptions sampleSigned failure)
      [⟨.get (.branch sampleHead), .ok ⟨404, .null⟩⟩]
      (.error (ambiguous "GitHub write outcome remains unknown after bounded reconciliation")) := by
  have recovers : recoverCreation sampleScript sampleCalendar sampleOptions sampleSigned failure =
      recoverTimes sampleScript sampleCalendar sampleOptions sampleSigned 1 := if_neg goesOn
  rw [recovers, recoverTimes, reconcile, Program.bind_assoc]
  exact getHead_runs (Or.inl rfl) (.done _)

/-- The creation follows the branch that counted as missing. -/
theorem sample_start (branch : GitHubHttpResponse) (missing : Missing branch) {rest : Trace}
    {result : Except GitHubEffectError GitHubReviewReceipt}
    (runs : Runs ((create sampleScript sampleCalendar sampleOptions sampleSigned
      (hexText (123 * 16 ^ 60))).recover
        (recoverCreation sampleScript sampleCalendar sampleOptions sampleSigned)) rest result) :
    Runs (createMigrationReview sampleScript sampleCalendar sampleOptions sampleSigned)
      ((sampleTrace branch).take 6 ++ rest) result := by
  rw [createMigrationReview]
  refine settle_runs sampleSigned_accepted ?_
  rw [resolveAuthorization, Program.bind_assoc]
  refine settle_runs sampleSigned_fingerprint ?_
  rw [Program.bind_assoc]
  refine ask_runs ?_
  rw [Program.bind_assoc]
  refine require_runs ⟨rfl, rfl⟩ ?_
  rw [Program.bind_assoc]
  refine sample_current ?_
  rw [Program.bind_assoc]
  refine require_runs ⟨rfl, rfl⟩ ?_
  show Runs (verifyRepositoryAndBase sampleOptions sampleSigned >>= _) _ _
  rw [verifyRepositoryAndBase, Program.bind_assoc]
  refine get_runs rfl rfl ?_
  rw [Program.bind_assoc]
  refine require_runs (by decide) ?_
  rw [Program.bind_assoc]
  refine get_runs rfl rfl ?_
  refine require_runs (by decide) ?_
  rw [reconcile, Program.bind_assoc]
  refine getHead_runs missing ?_
  exact runs

theorem sample_runs (branch : GitHubHttpResponse) (missing : Missing branch) :
    Runs (createMigrationReview sampleScript sampleCalendar sampleOptions sampleSigned)
      (sampleTrace branch)
      (.error (ambiguous "GitHub write outcome remains unknown after bounded reconciliation")) :=
  sample_start branch missing
    (sample_creation.recover_error (sample_recovery sampleFailure (by decide)))

/-- A mutation follows a response of the branch that nobody can read. -/
theorem unreadable_branch :
    Runs (createMigrationReview sampleScript sampleCalendar sampleOptions sampleSigned)
        (sampleTrace ⟨200, .null⟩)
        (.error (ambiguous "GitHub write outcome remains unknown after bounded reconciliation")) ∧
      ¬ MutationSafe sampleScript sampleSigned (sampleTrace ⟨200, .null⟩) := by
  refine ⟨sample_runs ⟨200, .null⟩ (Or.inr ⟨rfl, rfl⟩), fun safe => ?_⟩
  obtain ⟨response, present, gone⟩ :=
    (safe.1 ((sampleTrace ⟨200, .null⟩).take 11) _ _ _ rfl).2.1
  have read : ∀ exchange ∈ (sampleTrace ⟨200, .null⟩).take 11, ∀ resource,
      ∀ answer : GitHubHttpResponse,
      exchange = ⟨.get resource, .ok answer⟩ → answer.status = 200 := by
    intro exchange isExchange
    simp only [sampleTrace, List.take_succ_cons, List.take_zero, List.mem_cons, List.not_mem_nil,
      or_false] at isExchange
    rcases isExchange with rfl | rfl | rfl | rfl | rfl | rfl | rfl | rfl | rfl | rfl | rfl <;>
      rintro resource answer same <;> cases same <;> rfl
  rw [read _ present _ response rfl] at gone
  exact absurd gone (by decide)

theorem mutation_safe_sample :
    MutationSafe sampleScript sampleSigned (sampleTrace ⟨404, .null⟩) ↔
      ReadableBranch sampleSigned (sampleTrace ⟨404, .null⟩) :=
  mutation_safe sampleScript sampleCalendar sampleOptions sampleSigned (sampleTrace ⟨404, .null⟩)
    (.error (ambiguous "GitHub write outcome remains unknown after bounded reconciliation"))
    (sample_runs ⟨404, .null⟩ (Or.inl rfl))

end Samples

end LineageGuard.Github
