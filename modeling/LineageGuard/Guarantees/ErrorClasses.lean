import LineageGuard.Guarantees.MutationSafety
import Mathlib.Tactic

/-
This file proves what the class of an error of the live GitHub port tells about its effect.
-/

namespace LineageGuard.Github

open Json Domain Attempt Dialogue

section Classes

/-- The consumption of the effect was attempted. -/
def Attempted (trace : Trace) : Prop :=
  ∃ fingerprint reply, (⟨.consumeCurrentEffect fingerprint, reply⟩ : Exchange _ _) ∈ trace

/-- A caller that stops abandons nothing, and a caller that reconciles waits for an effect of this
call or of an earlier one. -/
structure ClassSound (earlier : List Trace) (trace : Trace) (error : GitHubEffectError) : Prop where
  stopped : error.retry ≠ .reconcile → ¬ Attempted trace ∧ posts trace = []
  awaited : error.code = .transportAmbiguous → ∃ call ∈ trace :: earlier, Attempted call

/-- The reply shows no branch or no pull request. -/
def OpenReply (input : GitHubReviewRequest) (exchange : Exchange PortCall PortReply) : Prop :=
  (∃ response, exchange = ⟨.get (.branch (headText input)), .ok response⟩ ∧ Missing response) ∨
    ∃ head base response, exchange = ⟨.get (.pulls head base), .ok response⟩ ∧
      response.status ∈ [200, 201] ∧ strictArray (some response.body) 2 = some []

def AsksReconcile : Except TransportFailure GitHubHttpResponse → Prop
  | .error (.classified error) => error.retry = .reconcile
  | .error .other => False
  | .ok response => response.status = 409 ∨ response.status = 422

def ClaimsAmbiguous : Except TransportFailure GitHubHttpResponse → Prop
  | .error (.classified error) => error.code = .transportAmbiguous
  | _ => False

/-- The run ends with such an exchange. -/
def Last (claim : Exchange PortCall PortReply → Prop) (trace : Trace) : Prop :=
  ∃ before exchange, trace = before ++ [exchange] ∧ claim exchange

def ReadWith (claim : Except TransportFailure GitHubHttpResponse → Prop)
    (exchange : Exchange PortCall PortReply) : Prop :=
  ∃ resource reply, exchange = ⟨.get resource, reply⟩ ∧ claim reply

/-- After an attempt the last reply leaves the effect open, and without one it does not. -/
structure FittingEnd (earlier : List Trace) (input : GitHubReviewRequest) (trace : Trace) :
    Prop where
  attempted : Attempted trace →
    Last (ReadWith AsksReconcile) trace ∨ Last (OpenReply input) trace
  unattempted : (∀ call ∈ trace :: earlier, ¬ Attempted call) →
    ¬ Last (OpenReply input) trace ∧ ¬ Last (ReadWith ClaimsAmbiguous) trace

end Classes

section Verdicts

variable {input : GitHubReviewRequest} {trace : Trace} {error : GitHubEffectError}

theorem last_append {claim : Exchange PortCall PortReply → Prop} {before : Trace}
    {exchange : Exchange PortCall PortReply} :
    Last claim (before ++ [exchange]) ↔ claim exchange := by
  constructor
  · rintro ⟨others, last, same, holds⟩
    obtain ⟨_, rfl⟩ := List.append_inj' same rfl |>.imp id List.singleton_inj.mp
    exact holds
  · exact fun holds => ⟨before, exchange, rfl, holds⟩

theorem Last.later {claim : Exchange PortCall PortReply → Prop} (earlier : Trace)
    (last : Last claim trace) : Last claim (earlier ++ trace) := by
  obtain ⟨before, exchange, rfl, holds⟩ := last
  exact ⟨earlier ++ before, exchange, (List.append_assoc _ _ _).symm, holds⟩

/-- The error tells what the last read replied. -/
def ReadError (input : GitHubReviewRequest) (error : GitHubEffectError)
    (exchange : Exchange PortCall PortReply) : Prop :=
  ∃ resource reply, exchange = ⟨.get resource, reply⟩ ∧ ¬ OpenReply input exchange ∧
    (error.retry = .reconcile ↔ AsksReconcile reply) ∧
    (error.code = .transportAmbiguous ↔ ClaimsAmbiguous reply)

def Sent (exchange : Exchange PortCall PortReply) : Prop := sentBody exchange ≠ none

def Final (error : GitHubEffectError) : Prop :=
  error.retry = .never ∧ error.code ≠ .transportAmbiguous

def Pending (error : GitHubEffectError) : Prop :=
  error.retry = .reconcile ∧ error.code = .transportAmbiguous

/-- These are the ways in which a review ends with an error. -/
inductive Verdict (input : GitHubReviewRequest) (trace : Trace) (error : GitHubEffectError) : Prop
  | read (last : Last (ReadError input error) trace)
  | unseen (last : Last (OpenReply input) trace) (pending : Pending error)
  | sent (last : Last Sent trace) (attempted : Attempted trace) (stops : error.retry = .never)
  | unread (reads : ∀ exchange ∈ trace, ∀ resource reply, exchange ≠ ⟨.get resource, reply⟩)
      (unattempted : ¬ Attempted trace) (silent : posts trace = []) (final : Final error)

theorem Verdict.sound (earlier : List Trace) (verdict : Verdict input trace error)
    (guarded : posts trace ≠ [] → Attempted trace) :
    ClassSound earlier trace error ↔ FittingEnd earlier input trace := by
  cases verdict with
  | read last =>
      obtain ⟨before, exchange, rfl, resource, reply, rfl, closed, asks, claims⟩ := last
      have isOpen : ¬ Last (OpenReply input) (before ++ [⟨.get resource, reply⟩]) :=
        fun last => closed (last_append.mp last)
      have isAsking : Last (ReadWith AsksReconcile) (before ++ [⟨.get resource, reply⟩]) ↔
          error.retry = .reconcile := by
        rw [last_append, asks]
        constructor
        · rintro ⟨other, answer, same, holds⟩
          cases same
          exact holds
        · exact fun holds => ⟨resource, reply, rfl, holds⟩
      have isClaiming : Last (ReadWith ClaimsAmbiguous) (before ++ [⟨.get resource, reply⟩]) ↔
          error.code = .transportAmbiguous := by
        rw [last_append, claims]
        constructor
        · rintro ⟨other, answer, same, holds⟩
          cases same
          exact holds
        · exact fun holds => ⟨resource, reply, rfl, holds⟩
      constructor
      · rintro ⟨stopped, awaited⟩
        refine ⟨fun attempted => Or.inl (isAsking.mpr ?_), fun unattempted =>
          ⟨isOpen, fun claiming => ?_⟩⟩
        · by_contra stops
          exact (stopped stops).1 attempted
        · obtain ⟨call, known, attempted⟩ := awaited (isClaiming.mp claiming)
          exact unattempted call known attempted
      · rintro ⟨attempted, unattempted⟩
        refine ⟨fun stops => ?_, fun ambiguous => ?_⟩
        · have never : ¬ Attempted _ := fun isAttempted =>
            (attempted isAttempted).elim (fun asking => stops (isAsking.mp asking)) isOpen
          exact ⟨never, not_not.mp fun sent => never (guarded sent)⟩
        · by_contra none
          exact (unattempted fun call known attempted => none ⟨call, known, attempted⟩).2
            (isClaiming.mpr ambiguous)
  | unseen last pending =>
      constructor
      · rintro ⟨_, awaited⟩
        refine ⟨fun _ => Or.inr last, fun unattempted => ?_⟩
        obtain ⟨call, known, attempted⟩ := awaited pending.2
        exact absurd attempted (unattempted call known)
      · rintro ⟨_, unattempted⟩
        refine ⟨fun stops => absurd pending.1 stops, fun _ => ?_⟩
        by_contra none
        exact (unattempted fun call known attempted => none ⟨call, known, attempted⟩).1 last
  | sent last attempted stops =>
      obtain ⟨before, exchange, rfl, sent⟩ := last
      refine iff_of_false (fun sound => ?_) fun fitting => ?_
      · exact (sound.stopped (by rw [stops]; decide)).1 attempted
      · rcases fitting.attempted attempted with asking | unseen
        · obtain ⟨resource, reply, rfl, _⟩ := last_append.mp asking
          exact sent rfl
        · rcases last_append.mp unseen with ⟨response, rfl, _⟩ | ⟨head, base, response, rfl, _⟩ <;>
            exact sent rfl
  | unread reads unattempted silent final =>
      refine iff_of_true ⟨fun _ => ⟨unattempted, silent⟩, fun ambiguous => absurd ambiguous final.2⟩
        ⟨fun attempted => absurd attempted unattempted, fun _ => ⟨?_, ?_⟩⟩
      · rintro ⟨before, exchange, rfl, ⟨response, rfl, _⟩ | ⟨head, base, response, rfl, _⟩⟩ <;>
          exact reads _ (List.mem_append_right _ (List.mem_singleton_self _)) _ _ rfl
      · rintro ⟨before, exchange, rfl, resource, reply, rfl, _⟩
        exact reads _ (List.mem_append_right _ (List.mem_singleton_self _)) _ _ rfl

end Verdicts

section Readings

variable {Result Other : Type} {input : GitHubReviewRequest} {trace : Trace}
variable {error : GitHubEffectError} {options : LiveGitHubOptions}

/-- The last read was accepted and left nothing open. -/
def Answered (input : GitHubReviewRequest) (exchange : Exchange PortCall PortReply) : Prop :=
  ∃ resource response, exchange = ⟨.get resource, .ok response⟩ ∧ ¬ OpenReply input exchange ∧
    response.status ≠ 409 ∧ response.status ≠ 422

theorem Answered.final {exchange : Exchange PortCall PortReply} (answered : Answered input exchange)
    (final : Final error) : ReadError input error exchange := by
  obtain ⟨resource, response, rfl, closed, noConflict, processable⟩ := answered
  refine ⟨resource, .ok response, rfl, closed, ?_, ?_⟩
  · rw [final.1]
    exact iff_of_false (by decide) (not_or.mpr ⟨noConflict, processable⟩)
  · exact iff_of_false final.2 id

/-- A program of reads ends after an accepted read, after an open one or with an error of its last
read. -/
def Ended (input : GitHubReviewRequest) (opens : Result → Prop) (trace : Trace) :
    Except GitHubEffectError Result → Prop
  | .ok value => (opens value ∧ Last (OpenReply input) trace) ∨
      (¬ opens value ∧ (trace = [] ∨ Last (Answered input) trace))
  | .error error => (trace = [] ∧ Final error) ∨ Last (ReadError input error) trace ∨
      (Last (OpenReply input) trace ∧ Pending error)

def Ends (input : GitHubReviewRequest) (opens : Result → Prop) (program : Dialog Result) : Prop :=
  ∀ trace result, Runs program trace result → Ended input opens trace result

/-- The values of the program leave nothing open. -/
abbrev Reading (input : GitHubReviewRequest) (program : Dialog Result) : Prop :=
  Ends input (fun _ => False) program

theorem Ended.later {opens : Result → Prop} {before after : Trace}
    {result : Except GitHubEffectError Result} (start : before = [] ∨ Last (Answered input) before)
    (ended : Ended input opens after result) : Ended input opens (before ++ after) result := by
  cases result with
  | ok value =>
      rcases ended with ⟨isOpen, last⟩ | ⟨closed, rfl | last⟩
      · exact Or.inl ⟨isOpen, last.later before⟩
      · rw [List.append_nil]
        exact Or.inr ⟨closed, start⟩
      · exact Or.inr ⟨closed, Or.inr (last.later before)⟩
  | error error =>
      rcases ended with ⟨rfl, final⟩ | last | ⟨last, pending⟩
      · rw [List.append_nil]
        rcases start with rfl | ⟨earlier, exchange, rfl, answered⟩
        · exact Or.inl ⟨rfl, final⟩
        · exact Or.inr (Or.inl ⟨earlier, exchange, rfl, answered.final final⟩)
      · exact Or.inr (Or.inl (last.later before))
      · exact Or.inr (Or.inr ⟨last.later before, pending⟩)

theorem Ends.done {opens : Result → Prop} {outcome : Except GitHubEffectError Result}
    (closed : ∀ value, outcome = .ok value → ¬ opens value)
    (final : ∀ error, outcome = .error error → Final error) : Ends input opens (.done outcome) := by
  intro trace result runs
  obtain ⟨rfl, rfl⟩ := runs.done_cases
  cases result with
  | ok value => exact Or.inr ⟨closed value rfl, Or.inl rfl⟩
  | error error => exact Or.inl ⟨rfl, final error rfl⟩

/-- An open value ends the sequence at once. -/
theorem Ends.bind {opens : Result → Prop} {others : Other → Prop} {first : Dialog Result}
    {next : Result → Dialog Other} (ends : Ends input opens first)
    (opened : ∀ value, opens value → ∃ outcome, next value = .done outcome ∧
      (∀ other, outcome = .ok other → others other) ∧ ∀ error, outcome = .error error → Pending error)
    (closed : ∀ value, ¬ opens value → Ends input others (next value)) :
    Ends input others (first >>= next) := by
  intro trace result runs
  rcases runs.bind_cases with ⟨error, part, rfl⟩ | ⟨before, after, value, rfl, part, continues⟩
  · exact ends _ _ part
  · rcases ends _ _ part with ⟨isOpen, last⟩ | ⟨isClosed, start⟩
    · obtain ⟨outcome, isOutcome, isOther, pending⟩ := opened value isOpen
      rw [isOutcome] at continues
      obtain ⟨rfl, rfl⟩ := continues.done_cases
      rw [List.append_nil]
      cases result with
      | ok other => exact Or.inl ⟨isOther other rfl, last⟩
      | error error => exact Or.inr (Or.inr ⟨last, pending error rfl⟩)
    · exact (closed value isClosed _ _ continues).later start

theorem Reading.bind {others : Other → Prop} {first : Dialog Result} {next : Result → Dialog Other}
    (reading : Reading input first) (rest : ∀ value, Ends input others (next value)) :
    Ends input others (first >>= next) :=
  Ends.bind reading (fun _ isOpen => isOpen.elim) fun value _ => rest value

theorem Ends.settle {others : Other → Prop} {outcome : Except GitHubEffectError Result}
    {next : Result → Dialog Other} (final : ∀ error, outcome = .error error → Final error)
    (rest : ∀ value, outcome = .ok value → Ends input others (next value)) :
    Ends input others (settle outcome >>= next) := by
  intro trace result runs
  rcases settle_cases runs with ⟨error, raised, rfl, rfl⟩ | ⟨value, isValue, continues⟩
  · exact Or.inl ⟨rfl, final error raised⟩
  · exact rest value isValue _ _ continues

/-- The class of a status is read off the status. -/
theorem statusError_class (status : ℕ) (operation : GitHubOperation) :
    ((statusError status operation).retry = .reconcile ↔ status = 409 ∨ status = 422) ∧
      (statusError status operation).code ≠ .transportAmbiguous := by
  unfold statusError
  dsimp only
  split_ifs with denied missing conflicting limited broken
  · refine ⟨iff_of_false nofun ?_, nofun⟩
    omega
  · refine ⟨iff_of_false nofun ?_, nofun⟩
    omega
  · exact ⟨iff_of_true rfl conflicting, nofun⟩
  · exact ⟨iff_of_false nofun conflicting, nofun⟩
  · exact ⟨iff_of_false nofun conflicting, nofun⟩
  · exact ⟨iff_of_false nofun conflicting, nofun⟩

/-- The class of a refused reply is read off the reply. -/
theorem refused_class {operation : GitHubOperation} {accepted : List ℕ}
    {reply : Except TransportFailure GitHubHttpResponse} {failure : TransportFailure}
    (refused : acceptResponse operation accepted reply = .error failure) :
    ((normalizeTransportError failure operation .retry).retry = .reconcile ↔ AsksReconcile reply) ∧
    ((normalizeTransportError failure operation .retry).code = .transportAmbiguous ↔
      ClaimsAmbiguous reply) := by
  cases reply with
  | error thrown =>
      obtain rfl : thrown = failure := Except.error.inj refused
      cases thrown with
      | classified error => exact ⟨Iff.rfl, Iff.rfl⟩
      | other => exact ⟨iff_of_false nofun id, iff_of_false nofun id⟩
  | ok response =>
      by_cases moved : 300 ≤ response.status ∧ response.status < 400
      · have isFailure : failure = .classified (redirectError response.status operation) := by
          simpa [acceptResponse, reject, moved, bind, Except.bind, eq_comm] using refused
        subst isFailure
        refine ⟨iff_of_false (fun same => GitHubRetry.noConfusion same) ?_,
          iff_of_false (fun same => GitHubEffectErrorCode.noConfusion same) id⟩
        rintro (conflicting | unprocessable) <;> omega
      · by_cases within : response.status ∈ accepted
        · simp [acceptResponse, reject, require, moved, within, bind, Except.bind, pure,
            Except.pure] at refused
        · have isFailure : failure = .classified (statusError response.status operation) := by
            simpa [acceptResponse, reject, require, moved, within, bind, Except.bind, eq_comm]
              using refused
          subst isFailure
          obtain ⟨asks, claims⟩ := statusError_class response.status operation
          exact ⟨asks, iff_of_false claims id⟩

/-- A read answers with an accepted response or fails with its last reply. -/
theorem get_reading {operation : GitHubOperation} {resource : Resource} {accepted : List ℕ}
    (closed : ∀ reply failure, acceptResponse operation accepted reply = .error failure →
      ¬ OpenReply input ⟨.get resource, reply⟩)
    {result : Except GitHubEffectError GitHubHttpResponse}
    (runs : Runs (get options operation resource accepted) trace result) :
    (∀ response, result = .ok response → ∃ before,
      trace = before ++ [⟨.get resource, .ok response⟩] ∧ response.status ∈ accepted) ∧
    ∀ error, result = .error error →
      (trace = [] ∧ Final error) ∨ Last (ReadError input error) trace := by
  constructor
  · rintro response rfl
    obtain ⟨failures, isTrace, within, _⟩ := getTimes_ok runs
    exact ⟨failures, isTrace, within⟩
  · rintro error rfl
    rw [get] at runs
    generalize options.maxAttempts = attempts at runs
    induction attempts generalizing trace with
    | zero =>
        obtain ⟨rfl, ended⟩ := runs.done_cases
        cases ended
        exact Or.inl ⟨rfl, rfl, fun same => by cases same⟩
    | succ attempts ih =>
        rw [getTimes] at runs
        obtain ⟨reply, rest, rfl, continues⟩ := runs.perform_cases
        dsimp only at continues
        split at continues
        · cases continues.done_cases.2
        · next failure refused =>
            have last : Last (ReadError input (normalizeTransportError failure operation .retry))
                [⟨.get resource, reply⟩] := by
              obtain ⟨asks, claims⟩ := refused_class refused
              exact ⟨[], _, rfl, resource, reply, rfl, closed reply failure refused, asks, claims⟩
            split at continues
            · obtain ⟨rfl, ended⟩ := continues.done_cases
              cases ended
              exact Or.inr last
            · next repeated =>
                rw [not_or] at repeated
                obtain ⟨fewer, rfl⟩ := Nat.exists_eq_succ_of_ne_zero repeated.2
                rcases ih continues with ⟨rfl, _⟩ | later
                · have again : Runs (ask (.get resource) >>= _) [] (.error error) := continues
                  obtain ⟨_, _, started, _⟩ := again.perform_cases
                  cases started
                · exact Or.inr (later.later [_])

end Readings

section Parts

variable {script : Script} {calendar : Calendar} {options : LiveGitHubOptions}
variable {input : GitHubReviewRequest}

theorem require_final {condition : Prop} [Decidable condition] {error : GitHubEffectError}
    (final : Final error) : ∀ raised, require condition error = .error raised → Final raised := by
  intro raised isRaised
  unfold require at isRaised
  split at isRaised
  · exact nomatch isRaised
  · cases isRaised
    exact final

theorem present_final {Found : Type} {found : Option Found} {error : GitHubEffectError}
    (final : Final error) : ∀ raised, present found error = .error raised → Final raised := by
  intro raised isRaised
  cases found with
  | some value => exact nomatch isRaised
  | none =>
      cases isRaised
      exact final

theorem bind_final {Found Result : Type} {first : Except GitHubEffectError Found}
    {next : Found → Except GitHubEffectError Result}
    (start : ∀ raised, first = .error raised → Final raised)
    (rest : ∀ found raised, next found = .error raised → Final raised) :
    ∀ raised, (first >>= next) = .error raised → Final raised := by
  intro raised isRaised
  cases first with
  | ok found => exact rest found raised isRaised
  | error error =>
      cases isRaised
      exact start raised rfl

theorem pure_final {Result : Type} {value : Result} : ∀ raised,
    (pure value : Except GitHubEffectError Result) = .error raised → Final raised := by
  intro raised isRaised
  cases isRaised

/-- The reads of the resource leave nothing open. -/
def Settled (input : GitHubReviewRequest) (resource : Resource) : Prop :=
  ∀ reply, ¬ OpenReply input ⟨.get resource, reply⟩

theorem get_settled {operation : GitHubOperation} {resource : Resource}
    (settled : Settled input resource) : Reading input (get options operation resource) := by
  intro trace result runs
  obtain ⟨answers, fails⟩ := get_reading (fun reply _ _ => settled reply) runs
  cases result with
  | ok response =>
      obtain ⟨before, rfl, within⟩ := answers response rfl
      refine Or.inr ⟨id, Or.inr ⟨before, _, rfl, resource, response, rfl, settled _, ?_, ?_⟩⟩ <;>
        rintro status <;> rw [status] at within <;> exact absurd within (by decide)
  | error error => exact (fails error rfl).imp id Or.inl

theorem commit_settled (sha : String) : Settled input (.commit sha) := by
  rintro reply (⟨_, same, _⟩ | ⟨_, _, _, same, _⟩) <;> cases same

theorem tree_settled (sha : String) : Settled input (.tree sha) := by
  rintro reply (⟨_, same, _⟩ | ⟨_, _, _, same, _⟩) <;> cases same

theorem blob_settled (sha : String) : Settled input (.blob sha) := by
  rintro reply (⟨_, same, _⟩ | ⟨_, _, _, same, _⟩) <;> cases same

theorem repository_settled : Settled input .repository := by
  rintro reply (⟨_, same, _⟩ | ⟨_, _, _, same, _⟩) <;> cases same

theorem branch_settled {name : String} (other : name ≠ headText input) :
    Settled input (.branch name) := by
  rintro reply (⟨_, same, _⟩ | ⟨_, _, _, same, _⟩)
  · cases same
    exact other rfl
  · cases same

theorem conflict_final (operation : GitHubOperation) (message : String) :
    Final (conflict operation message) := ⟨rfl, fun same => by cases same⟩

theorem headName_final : ∀ raised, headName input = .error raised → Final raised := by
  rw [headName, deterministicHead]
  refine bind_final (require_final ?_) fun _ => ?_
  · exact ⟨rfl, by decide⟩
  · cases input.sourcePrNumber with
    | none => exact pure_final
    | some number =>
        refine bind_final (require_final ?_) fun _ => pure_final
        exact ⟨rfl, by decide⟩

theorem treeFailure_final (operation : GitHubOperation) (message : String) :
    Final (treeFailure operation message) := by
  refine ⟨rfl, ?_⟩
  rw [treeFailure]
  split <;> nofun

theorem parseTreeEntries_final {operation : GitHubOperation} {seen : List String}
    {items : List Value} :
    ∀ raised, parseTreeEntries operation seen items = .error raised → Final raised := by
  induction items generalizing seen with
  | nil => exact pure_final
  | cons raw rest ih =>
      refine bind_final (present_final (treeFailure_final _ _)) fun entry => bind_final ?_
        fun _ => bind_final ih fun _ => pure_final
      intro raised isRaised
      unfold reject at isRaised
      split at isRaised
      · cases isRaised
        exact treeFailure_final _ _
      · exact nomatch isRaised

theorem parseTreeResponse_final {body : Value} {sha : String} {operation : GitHubOperation} :
    ∀ raised, parseTreeResponse body sha operation = .error raised → Final raised :=
  bind_final (present_final (treeFailure_final _ _)) fun _ =>
    bind_final (present_final (treeFailure_final _ _)) fun _ =>
      bind_final (require_final (treeFailure_final _ _)) fun _ => parseTreeEntries_final

theorem verify_reading (other : input.baseBranch ≠ headText input) :
    Reading input (verifyRepositoryAndBase options input) :=
  Reading.bind (get_settled repository_settled) fun _ =>
    Ends.settle (require_final ⟨rfl, nofun⟩) fun _ _ =>
      Reading.bind (get_settled (branch_settled other)) fun _ =>
        Ends.done (fun _ _ => id) (require_final (conflict_final _ _))

theorem readTree_reading (sha : String) : Reading input (readTree options sha) :=
  Reading.bind (get_settled (tree_settled sha)) fun _ =>
    Ends.settle parseTreeResponse_final fun _ _ => Ends.done (fun _ _ => id) pure_final

theorem verifyArtifacts_reading (baseTree headTree : List TreeEntry)
    (artifacts : List GitHubArtifact) :
    Reading input (verifyArtifacts script options input baseTree headTree artifacts) := by
  induction artifacts with
  | nil => exact Ends.done (fun _ _ => id) pure_final
  | cons artifact rest ih =>
      refine Ends.settle (present_final (conflict_final _ _)) fun _ _ =>
        Ends.settle (require_final (conflict_final _ _)) fun _ _ => Reading.bind ?_ fun _ => ih
      exact Reading.bind (get_settled (blob_settled _)) fun _ =>
        Ends.done (fun _ _ => id) (require_final (conflict_final _ _))

theorem verifyReconciledArtifacts_reading (sha : String) :
    Reading input (verifyReconciledArtifacts script options input sha) :=
  Reading.bind (get_settled (commit_settled _)) fun _ =>
    Ends.settle (present_final (conflict_final _ _)) fun _ _ =>
      Ends.settle (require_final (conflict_final _ _)) fun _ _ =>
        Reading.bind (readTree_reading _) fun _ => Reading.bind (readTree_reading _) fun _ =>
          Ends.settle (require_final (conflict_final _ _)) fun _ _ =>
            verifyArtifacts_reading _ _ _

theorem readBase_reading : Reading input (readBase options input) :=
  Reading.bind (get_settled (commit_settled _)) fun _ =>
    Ends.settle (present_final (conflict_final _ _)) fun _ _ =>
      Ends.settle (require_final (conflict_final _ _)) fun _ _ =>
        Reading.bind (get_settled (tree_settled _)) fun _ =>
          Ends.settle parseTreeResponse_final fun _ _ =>
            Ends.settle (require_final (conflict_final _ _)) fun _ _ =>
              Ends.done (fun _ _ => id) pure_final

/-- A missing branch is left open. -/
theorem getHead_ends : Ends input (fun found => found = none) (getHead options input) := by
  refine Ends.settle headName_final fun head named => ?_
  have isHead : head = headText input := by rw [headText, named]; rfl
  subst isHead
  intro trace result runs
  rcases runs.bind_cases with ⟨error, part, rfl⟩ | ⟨before, after, response, rfl, part, continues⟩
  · refine ((get_reading ?_ part).2 error rfl).imp id Or.inl
    rintro reply failure refused (⟨response, same, missing⟩ | ⟨_, _, _, same, _⟩)
    · cases same
      rcases missing with absent | ⟨found, _⟩
      · simp [acceptResponse, reject, require, absent, bind, Except.bind, pure, Except.pure]
          at refused
      · simp [acceptResponse, reject, require, found, bind, Except.bind, pure, Except.pure]
          at refused
    · cases same
  · obtain ⟨rfl, rfl⟩ := continues.done_cases
    obtain ⟨failures, rfl, within, _⟩ := getTimes_ok part
    rw [List.append_nil]
    have isOpen : ∀ missing : Missing response,
        Last (OpenReply input) (failures ++ [⟨.get (.branch (headText input)), .ok response⟩]) :=
      fun missing => last_append.mpr (Or.inl ⟨response, rfl, missing⟩)
    by_cases absent : response.status = 404
    · rw [if_pos absent]
      exact Or.inl ⟨rfl, isOpen (Or.inl absent)⟩
    have status : response.status = 200 := by simpa [absent] using within
    rw [if_neg absent]
    cases body : object (some response.body) with
    | none => exact Or.inl ⟨rfl, isOpen (Or.inr ⟨status, body⟩)⟩
    | some ref =>
        refine Or.inr ⟨Option.some_ne_none ref,
          Or.inr (last_append.mpr ⟨_, response, rfl, ?_, ?_, ?_⟩)⟩
        · rintro (⟨answer, same, missing⟩ | ⟨_, _, _, same, _⟩)
          · cases same
            rcases missing with gone | ⟨_, unreadable⟩
            · exact absent gone
            · rw [body] at unreadable
              cases unreadable
          · cases same
        · rw [status]
          decide
        · rw [status]
          decide

/-- A list without a pull request is left open. -/
theorem pulls_ends : Ends input (fun listed => listed = []) (pulls options input) := by
  refine Ends.settle headName_final fun head named => ?_
  intro trace result runs
  rcases runs.bind_cases with ⟨error, part, rfl⟩ | ⟨before, after, response, rfl, part, continues⟩
  · refine ((get_reading ?_ part).2 error rfl).imp id Or.inl
    rintro reply failure refused (⟨_, same, _⟩ | ⟨_, _, response, same, within, _⟩)
    · cases same
    · cases same
      have direct : ¬ (300 ≤ response.status ∧ response.status < 400) := by
        simp only [List.mem_cons, List.not_mem_nil, or_false] at within
        omega
      simp [acceptResponse, reject, require, direct, within, bind, Except.bind, pure, Except.pure]
        at refused
  · obtain ⟨rfl, rfl⟩ := continues.done_cases
    obtain ⟨failures, rfl, within, _⟩ := getTimes_ok part
    rw [List.append_nil]
    have closed : strictArray (some response.body) 2 ≠ some [] → Answered input
        ⟨.get (.pulls (options.owner ++ ":" ++ head) input.baseBranch), .ok response⟩ := by
      intro filled
      refine ⟨_, response, rfl, ?_, ?_, ?_⟩
      · rintro (⟨_, same, _⟩ | ⟨_, _, answer, same, _, unlisted⟩)
        · cases same
        · cases same
          exact filled unlisted
      · rintro status
        rw [status] at within
        exact absurd within (by decide)
      · rintro status
        rw [status] at within
        exact absurd within (by decide)
    cases listed : strictArray (some response.body) 2 with
    | none =>
        have answered := closed (by
          rw [listed]
          exact (Option.some_ne_none _).symm)
        exact Or.inr (Or.inl (last_append.mpr (answered.final ⟨rfl, by decide⟩)))
    | some items =>
        cases items with
        | nil =>
            exact Or.inl ⟨rfl, last_append.mpr (Or.inr ⟨_, _, response, rfl, within, listed⟩)⟩
        | cons item others =>
            refine Or.inr ⟨List.cons_ne_nil item others, Or.inr (last_append.mpr (closed ?_))⟩
            rw [listed]
            intro same
            cases same

theorem receipt_final {pull : Members} {headSha : String} {reconciled : Bool}
    {outcome : EffectOutcome} : ∀ raised,
    receipt calendar input pull headSha reconciled outcome = .error raised → Final raised :=
  bind_final headName_final fun _ => bind_final (present_final (conflict_final _ _)) fun _ =>
    bind_final (present_final (conflict_final _ _)) fun _ =>
      bind_final (require_final (conflict_final _ _)) fun _ =>
        bind_final (present_final (conflict_final _ _)) fun _ =>
          bind_final (present_final (conflict_final _ _)) fun _ => pure_final

/-- A reconciliation that finds nothing leaves the effect open. -/
theorem reconcile_ends (allowIncomplete : Bool) (outcome : EffectOutcome) :
    Ends input (fun found => found = none)
      (reconcile script calendar options input allowIncomplete outcome) := by
  apply Ends.bind getHead_ends
  · rintro found rfl
    exact ⟨.ok none, rfl, fun _ same => (Except.ok.inj same).symm, nofun⟩
  intro found isFound
  cases found with
  | none => exact absurd rfl isFound
  | some ref =>
      refine Ends.settle headName_final fun head _ => Ends.settle ?_ fun headSha _ =>
        Reading.bind (get_settled (commit_settled _)) fun _ => Ends.settle ?_ fun treeSha _ =>
          Reading.bind (verifyReconciledArtifacts_reading _) fun _ => Ends.bind pulls_ends ?_ ?_
      · exact bind_final (present_final (conflict_final _ _)) fun _ =>
          bind_final (require_final (conflict_final _ _)) fun _ => pure_final
      · exact bind_final (present_final (conflict_final _ _)) fun _ =>
          bind_final (require_final (conflict_final _ _)) fun _ => pure_final
      · rintro listed rfl
        cases allowIncomplete with
        | false => exact ⟨_, rfl, nofun, fun error same => by cases same; exact ⟨rfl, rfl⟩⟩
        | true => exact ⟨_, rfl, fun _ same => (Except.ok.inj same).symm, nofun⟩
      · intro listed filled
        match listed with
        | [] => exact absurd rfl filled
        | [pull] =>
            refine Ends.settle (present_final ⟨rfl, nofun⟩) fun _ _ =>
              Ends.settle receipt_final fun _ _ => Ends.done ?_ pure_final
            rintro _ same rfl
            exact nomatch same
        | _ :: _ :: _ =>
            refine Ends.done nofun fun error same => ?_
            cases same
            exact conflict_final _ _

end Parts

section Errors

variable {Result Final' : Type} {script : Script} {calendar : Calendar}
variable {options : LiveGitHubOptions} {input : GitHubReviewRequest} {trace : Trace}
variable {error : GitHubEffectError} {head : String}

/-- Every run of the program asks something. -/
def Asks (program : Dialog Result) : Prop :=
  ∀ trace result, Runs program trace result → trace ≠ []

theorem Asks.bind {first : Dialog Result} {next : Result → Dialog Final'} (asks : Asks first) :
    Asks (first >>= next) := by
  intro trace result runs
  rcases runs.bind_cases with ⟨error, part, _⟩ | ⟨before, after, value, rfl, part, _⟩
  · exact asks _ _ part
  · exact List.append_ne_nil_of_left_ne_nil (asks _ _ part) _

theorem get_asks (positive : 0 < options.maxAttempts) {operation : GitHubOperation}
    {resource : Resource} {accepted : List ℕ} :
    Asks (get options operation resource accepted) := by
  rw [get]
  obtain ⟨attempts, same⟩ := Nat.exists_eq_succ_of_ne_zero positive.ne'
  rw [same]
  intro trace result runs
  have asked : Runs (ask (.get resource) >>= _) trace result := runs
  obtain ⟨_, _, rfl, _⟩ := asked.perform_cases
  exact List.cons_ne_nil _ _

theorem settle_asks {outcome : Except GitHubEffectError Result} {value : Result}
    {next : Result → Dialog Final'} (settled : outcome = .ok value) (asks : Asks (next value)) :
    Asks (settle outcome >>= next) := by
  subst settled
  exact asks

theorem reconcile_asks (positive : 0 < options.maxAttempts) (named : headName input = .ok head)
    (allowIncomplete : Bool) (outcome : EffectOutcome) :
    Asks (reconcile script calendar options input allowIncomplete outcome) :=
  Asks.bind (settle_asks named (Asks.bind (get_asks positive)))

theorem pulls_asks (positive : 0 < options.maxAttempts) (named : headName input = .ok head) :
    Asks (pulls options input) := settle_asks named (Asks.bind (get_asks positive))

/-- The error is one of the last read or follows an open reply. -/
def ReadEnd (input : GitHubReviewRequest) (trace : Trace) (error : GitHubEffectError) : Prop :=
  Last (ReadError input error) trace ∨ (Last (OpenReply input) trace ∧ Pending error)

theorem ReadEnd.later (earlier : Trace) (ends : ReadEnd input trace error) :
    ReadEnd input (earlier ++ trace) error :=
  ends.imp (Last.later earlier) fun opened => ⟨opened.1.later earlier, opened.2⟩

theorem ReadEnd.verdict (ends : ReadEnd input trace error) : Verdict input trace error :=
  ends.elim .read fun opened => .unseen opened.1 opened.2

theorem Ended.readEnd {opens : Result → Prop} (asked : trace ≠ [])
    (ended : Ended input opens trace (.error error)) : ReadEnd input trace error :=
  ended.resolve_left fun silent => asked silent.1

/-- A recovery gives up after it looked for the effect. -/
theorem recoverTimes_error (positive : 0 < options.maxAttempts)
    (named : headName input = .ok head) {attempts : ℕ}
    (runs : Runs (recoverTimes script calendar options input attempts) trace (.error error)) :
    (trace = [] ∧ attempts = 0 ∧ Pending error) ∨ ReadEnd input trace error := by
  induction attempts generalizing trace with
  | zero =>
      obtain ⟨rfl, ended⟩ := runs.done_cases
      cases ended
      exact Or.inl ⟨rfl, rfl, rfl, rfl⟩
  | succ attempts ih =>
      have asks : Asks (reconcile script calendar options input true .created) :=
        reconcile_asks positive named true .created
      rcases runs.bind_cases with ⟨_, part, same⟩ | ⟨before, after, found, rfl, part, continues⟩
      · cases same
        exact Or.inr ((reconcile_ends true .created _ _ part).readEnd (asks _ _ part))
      · cases found with
        | some receipt => exact nomatch continues.done_cases.2
        | none =>
            have opened : Last (OpenReply input) before := by
              rcases reconcile_ends true .created _ _ part with ⟨_, last⟩ | ⟨closed, _⟩
              · exact last
              · exact absurd rfl closed
            rcases ih continues with ⟨rfl, _, pending⟩ | later
            · rw [List.append_nil]
              exact Or.inr (Or.inr ⟨opened, pending⟩)
            · exact Or.inr (later.later before)

theorem fingerprint_final : ∀ raised,
    githubEffectFingerprint script input = .error raised → Final raised :=
  bind_final (bind_final headName_final fun _ => pure_final) fun _ => pure_final

theorem validInvokeBy_answers {value : String} :
    ¬ Runs (validInvokeBy calendar value) trace (.error error) := by
  intro runs
  rw [validInvokeBy] at runs
  split at runs
  · cases runs.done_cases.2
  · split at runs
    · cases runs.done_cases.2
    · obtain ⟨_, _, _, continues⟩ := runs.perform_cases
      split at continues
      · cases continues.done_cases.2
      · obtain ⟨_, _, _, ends⟩ := continues.perform_cases
        cases ends.done_cases.2

/-- A consumption that is sent and not acknowledged leaves its outcome open. -/
theorem consume_error {fingerprint : String}
    (runs : Runs (consume script calendar input fingerprint) trace (.error error)) :
    (trace = [] ∧ Final error) ∨ (Attempted trace ∧ Pending error) := by
  rcases settle_cases runs with ⟨_, raised, rfl, same⟩ | ⟨_, _, continues⟩
  · cases same
    exact Or.inl ⟨rfl, fingerprint_final _ raised⟩
  rcases settle_cases continues with ⟨_, raised, rfl, same⟩ | ⟨_, _, continues⟩
  · cases same
    refine Or.inl ⟨rfl, require_final ?_ _ raised⟩
    exact ⟨rfl, nofun⟩
  obtain ⟨reply, rest, rfl, ends⟩ := continues.perform_cases
  refine Or.inr ⟨⟨fingerprint, reply, List.mem_cons_self⟩, ?_⟩
  have raises : ∀ {condition : Prop} [Decidable condition] {failure raised : GitHubEffectError},
      require condition failure = .error raised → raised = failure := by
    intro condition _ failure raised isRaised
    unfold require at isRaised
    split at isRaised
    · exact nomatch isRaised
    · exact (Except.error.inj isRaised).symm
  cases reply with
  | failed =>
      cases ends.done_cases.2
      exact ⟨rfl, rfl⟩
  | malformed =>
      cases ends.done_cases.2
      exact ⟨rfl, rfl⟩
  | answered consumed =>
      rcases settle_cases ends with ⟨_, raised, _, same⟩ | ⟨_, _, checks⟩
      · cases same
        rw [raises raised]
        exact ⟨rfl, rfl⟩
      rcases checks.bind_cases with ⟨_, part, _⟩ | ⟨_, _, _, _, _, last⟩
      · exact absurd part validInvokeBy_answers
      · obtain ⟨_, raised⟩ := last.done_cases
        rw [raises raised.symm]
        exact ⟨rfl, rfl⟩

theorem consume_attempts {fingerprint : String}
    (runs : Runs (consume script calendar input fingerprint) trace (.ok ())) : Attempted trace :=
  (consume_acknowledged runs).2.elim fun _ acknowledged => ⟨fingerprint, _, acknowledged.1⟩

theorem Sent.single {mutation : Mutation} (reply : PortReply (.post mutation)) :
    Last Sent [⟨.post mutation, reply⟩] := ⟨[], _, rfl, nofun⟩

theorem createBlobs_sends {artifacts : List GitHubArtifact}
    (runs : Runs (createBlobs artifacts) trace (.error error)) : Last Sent trace := by
  induction artifacts generalizing trace with
  | nil => exact nomatch runs.done_cases.2
  | cons artifact rest ih =>
      obtain ⟨reply, others, rfl, ⟨_, _, rfl, _⟩ | ⟨_, _, continues⟩⟩ := post_cases runs
      · exact Sent.single reply
      rcases settle_cases continues with ⟨_, _, rfl, _⟩ | ⟨_, _, continues⟩
      · exact Sent.single reply
      rcases continues.bind_cases with ⟨_, part, same⟩ | ⟨_, _, _, _, _, ends⟩
      · cases same
        exact (ih part).later [_]
      · exact nomatch ends.done_cases.2

/-- A branch fails after a mutation. -/
theorem createBranch_sends {baseTree : String}
    (runs : Runs (createBranch input baseTree) trace (.error error)) : Last Sent trace := by
  rcases runs.bind_cases with ⟨_, part, same⟩ | ⟨blobs, after, _, rfl, _, continues⟩
  · cases same
    exact createBlobs_sends part
  apply Last.later
  obtain ⟨reply, trees, rfl, ⟨_, _, rfl, _⟩ | ⟨_, _, continues⟩⟩ := post_cases continues
  · exact Sent.single reply
  rcases settle_cases continues with ⟨_, _, rfl, _⟩ | ⟨_, _, continues⟩
  · exact Sent.single reply
  apply Last.later [_]
  obtain ⟨reply, commits, rfl, ⟨_, _, rfl, _⟩ | ⟨_, _, continues⟩⟩ := post_cases continues
  · exact Sent.single reply
  rcases settle_cases continues with ⟨_, _, rfl, _⟩ | ⟨_, _, continues⟩
  · exact Sent.single reply
  rcases settle_cases continues with ⟨_, _, rfl, _⟩ | ⟨_, _, continues⟩
  · exact Sent.single reply
  apply Last.later [_]
  obtain ⟨reply, refs, rfl, ⟨_, _, rfl, _⟩ | ⟨_, _, continues⟩⟩ := post_cases continues
  · exact Sent.single reply
  rcases settle_cases continues with ⟨_, _, rfl, _⟩ | ⟨_, _, continues⟩
  · exact Sent.single reply
  · exact nomatch continues.done_cases.2

theorem createPull_ends {headSha : String} {outcome : EffectOutcome}
    (positive : 0 < options.maxAttempts) (named : headName input = .ok head)
    (runs : Runs (createPull calendar options input headSha outcome) trace (.error error)) :
    ReadEnd input trace error ∨ Last Sent trace := by
  have asks : Asks (pulls options input) := pulls_asks positive named
  rcases runs.bind_cases with ⟨_, part, same⟩ | ⟨before, after, listed, rfl, part, continues⟩
  · cases same
    exact Or.inl ((pulls_ends _ _ part).readEnd (asks _ _ part))
  match listed with
  | [] =>
      rcases settle_cases continues with ⟨_, raised, _, _⟩ | ⟨_, _, continues⟩
      · rw [named] at raised
        exact nomatch raised
      right
      apply Last.later
      obtain ⟨reply, rest, rfl, ⟨_, _, rfl, _⟩ | ⟨_, _, continues⟩⟩ := post_cases continues
      · exact Sent.single reply
      rcases settle_cases continues with ⟨_, _, rfl, _⟩ | ⟨_, _, continues⟩
      · exact Sent.single reply
      · rw [continues.done_cases.1]
        exact Sent.single reply
  | existing :: others =>
      obtain ⟨earlier, exchange, rfl, answered⟩ : Last (Answered input) before := by
        rcases pulls_ends _ _ part with ⟨isEmpty, _⟩ | ⟨_, silent | last⟩
        · exact nomatch isEmpty
        · exact absurd silent (asks _ _ part)
        · exact last
      have ended : after = [] ∧ Final error := by
        match others with
        | [] =>
            rcases settle_cases continues with ⟨_, raised, rfl, same⟩ | ⟨_, _, continues⟩
            · cases same
              refine ⟨rfl, present_final ?_ _ raised⟩
              exact ⟨rfl, nofun⟩
            · obtain ⟨silent, raised⟩ := continues.done_cases
              exact ⟨silent, receipt_final _ raised.symm⟩
        | _ :: _ =>
            obtain ⟨silent, same⟩ := continues.done_cases
            cases same
            exact ⟨silent, conflict_final _ _⟩
      rw [ended.1, List.append_nil]
      exact Or.inl (Or.inl ⟨earlier, exchange, rfl, answered.final ended.2⟩)

theorem Attempted.mono {past later : Trace} (within : past ⊆ later) (attempted : Attempted past) :
    Attempted later := by
  obtain ⟨fingerprint, reply, present⟩ := attempted
  exact ⟨fingerprint, reply, within present⟩

/-- A creation fails with the error of a read, or it attempted the consumption first. -/
theorem create_ends {fingerprint : String} (positive : 0 < options.maxAttempts)
    (named : headName input = .ok head)
    (runs : Runs (create script calendar options input fingerprint) trace (.error error)) :
    ReadEnd input trace error ∨ (Attempted trace ∧ (Pending error ∨ Last Sent trace)) := by
  have asks : Asks (readBase options input) := Asks.bind (get_asks positive)
  rcases runs.bind_cases with ⟨_, part, same⟩ | ⟨base, after, baseTree, rfl, part, continues⟩
  · cases same
    exact Or.inl ((readBase_reading _ _ part).readEnd (asks _ _ part))
  have answered : Last (Answered input) base := by
    rcases readBase_reading _ _ part with ⟨impossible, _⟩ | ⟨_, silent | last⟩
    · exact impossible.elim
    · exact absurd silent (asks _ _ part)
    · exact last
  rcases continues.bind_cases with ⟨_, consumed, same⟩ |
    ⟨consumption, after, _, rfl, consumed, continues⟩
  · cases same
    rcases consume_error consumed with ⟨rfl, final⟩ | ⟨attempted, pending⟩
    · obtain ⟨earlier, exchange, rfl, answered⟩ := answered
      rw [List.append_nil]
      exact Or.inl (Or.inl ⟨earlier, exchange, rfl, answered.final final⟩)
    · exact Or.inr ⟨attempted.mono (List.subset_append_right _ _), Or.inl pending⟩
  have attempted : Attempted (base ++ (consumption ++ after)) :=
    (consume_attempts consumed).mono fun _ present =>
      List.mem_append_right _ (List.mem_append_left _ present)
  rcases continues.bind_cases with ⟨_, branch, same⟩ | ⟨branch, after, headSha, rfl, _, continues⟩
  · cases same
    exact Or.inr ⟨attempted, Or.inr (((createBranch_sends branch).later _).later _)⟩
  · rcases createPull_ends positive named continues with ends | last
    · exact Or.inl (((ends.later _).later _).later _)
    · exact Or.inr ⟨attempted, Or.inr (((last.later _).later _).later _)⟩

theorem resolveAuthorization_final
    (runs : Runs (resolveAuthorization script calendar input) trace (.error error)) :
    Final error := by
  rcases settle_cases runs with ⟨_, raised, _, same⟩ | ⟨_, _, continues⟩
  · cases same
    exact fingerprint_final _ raised
  obtain ⟨reply, rest, _, ends⟩ := continues.perform_cases
  cases reply with
  | failed =>
      cases ends.done_cases.2
      exact ⟨rfl, nofun⟩
  | malformed =>
      cases ends.done_cases.2
      exact ⟨rfl, nofun⟩
  | answered authorized =>
      rcases settle_cases ends with ⟨_, raised, _, same⟩ | ⟨_, _, checks⟩
      · cases same
        refine require_final ?_ _ raised
        exact ⟨rfl, nofun⟩
      rcases checks.bind_cases with ⟨_, part, _⟩ | ⟨_, _, _, _, _, last⟩
      · exact absurd part validInvokeBy_answers
      rcases settle_cases last with ⟨_, raised, _, same⟩ | ⟨_, _, last⟩
      · cases same
        refine require_final ?_ _ raised
        exact ⟨rfl, nofun⟩
      · exact nomatch last.done_cases.2

theorem rejected_final (code : GitHubEffectErrorCode) (message : String)
    (known : code ≠ .transportAmbiguous) : Final (rejected code message) := ⟨rfl, known⟩

theorem checkArtifacts_final {observations : List ValidatedArtifactBinding} {seen : List String}
    {artifacts : List GitHubArtifact} : ∀ raised,
    checkArtifacts script observations seen artifacts = .error raised → Final raised := by
  induction artifacts generalizing seen with
  | nil => exact pure_final
  | cons artifact rest ih =>
      refine bind_final ?_ fun _ => bind_final (require_final ?_) fun _ => ih
      · intro raised isRaised
        unfold reject at isRaised
        split at isRaised
        · cases isRaised
          exact rejected_final _ _ nofun
        · exact nomatch isRaised
      · exact rejected_final _ _ nofun

theorem validateRequest_final : ∀ raised,
    validateRequest script options input = .error raised → Final raised := by
  rw [validateRequest]
  repeat
    first
    | exact require_final (rejected_final _ _ (by decide))
    | refine bind_final (require_final (rejected_final _ _ (by decide))) fun _ => ?_
    | refine bind_final checkArtifacts_final fun _ => ?_

theorem validateOptions_ok (valid : validateOptions options = .ok ()) :
    "lineageguard/".toList.isPrefixOf options.baseBranch.toList = false ∧
      0 < options.maxAttempts := by
  simp only [validateOptions, bind_ok, require_ok, exists_const] at valid
  obtain ⟨_, ⟨_, _, _, outside⟩, within⟩ := valid
  refine ⟨outside, Nat.pos_of_ne_zero fun none => ?_⟩
  rw [none] at within
  exact absurd within (by decide)

/-- The port never takes its own branch for the base. -/
theorem base_differs (valid : validateOptions options = .ok ())
    (fields : AcceptedFields options input) : input.baseBranch ≠ headText input := by
  intro same
  have named := accepted_head fields
  simp only [headName, deterministicHead, fields.unnumbered, bind_ok, require_ok, exists_const,
    pure_ok] at named
  obtain ⟨_, isHead⟩ := named
  have outside := (validateOptions_ok valid).1
  rw [← fields.baseBranch, same, ← isHead, String.toList_append] at outside
  have split : "lineageguard/generated/".toList = "lineageguard/".toList ++ "generated/".toList := by
    decide
  rw [split, List.append_assoc, List.isPrefixOf_iff_prefix.mpr (List.prefix_append _ _)] at outside
  exact nomatch outside

theorem normalized_class (kind : GitHubRetry) (operation : GitHubOperation) :
    (normalizeTransportError (.classified error) operation kind).retry = error.retry ∧
      (normalizeTransportError (.classified error) operation kind).code = error.code :=
  ⟨rfl, rfl⟩

/-- A recovered creation ends with the class of its own error or with a look at the effect. -/
theorem recovered_ends {fingerprint : String} {creation recovery : Trace}
    {failure : GitHubEffectError} (positive : 0 < options.maxAttempts)
    (named : headName input = .ok head)
    (created : Runs (create script calendar options input fingerprint) creation (.error failure))
    (recovered : Runs (recoverCreation script calendar options input failure) recovery
      (.error error)) : ReadEnd input (creation ++ recovery) error ∨
      (Attempted (creation ++ recovery) ∧ Last Sent (creation ++ recovery) ∧
        error.retry = .never) := by
  obtain ⟨sameRetry, sameCode⟩ := @normalized_class failure .reconcile .reconcile
  rw [recoverCreation] at recovered
  split at recovered
  · next stops =>
      rw [sameRetry] at stops
      obtain ⟨rfl, same⟩ := recovered.done_cases
      obtain rfl := Except.error.inj same
      rw [List.append_nil]
      have never : ¬ Pending failure := fun pending => by
        rw [pending.1] at stops
        cases stops
      rcases create_ends positive named created with (last | ⟨_, pending⟩) |
        ⟨attempted, pending | last⟩
      · exact Or.inl (Or.inl last)
      · exact absurd pending never
      · exact absurd pending never
      · exact Or.inr ⟨attempted, last, stops⟩
  · rcases recoverTimes_error positive named recovered with ⟨_, none, _⟩ | ends
    · exact absurd none positive.ne'
    · exact Or.inl (ends.later creation)

/-- Every error of a review comes with its verdict. -/
theorem review_verdict (valid : validateOptions options = .ok ())
    (runs : Runs (createMigrationReview script calendar options input) trace (.error error)) :
    Verdict input trace error := by
  have positive := (validateOptions_ok valid).2
  rcases settle_cases runs with ⟨_, raised, rfl, same⟩ | ⟨_, accepted, continues⟩
  · cases same
    exact .unread (fun _ present => nomatch present) (fun ⟨_, _, present⟩ => nomatch present) rfl
      (validateRequest_final _ raised)
  have fields := (validateRequest_ok.mp accepted).1
  have named := accepted_head fields
  rcases continues.bind_cases with ⟨_, part, same⟩ |
    ⟨start, after, authorization, rfl, _, continues⟩
  · cases same
    have unread : Avoids (fun exchange => ∃ resource reply, exchange = ⟨.get resource, reply⟩)
        (resolveAuthorization script calendar input) :=
      resolveAuthorization_avoids (fun _ ⟨_, _, same⟩ => nomatch (Exchange.mk.inj same).1)
        fun _ _ ⟨_, _, same⟩ => nomatch (Exchange.mk.inj same).1
    have unspent : Avoids (fun exchange => ∃ fingerprint reply,
        exchange = ⟨.consumeCurrentEffect fingerprint, reply⟩)
        (resolveAuthorization script calendar input) :=
      resolveAuthorization_avoids (fun _ ⟨_, _, same⟩ => nomatch (Exchange.mk.inj same).1)
        fun _ _ ⟨_, _, same⟩ => nomatch (Exchange.mk.inj same).1
    exact .unread
      (fun exchange present resource reply same =>
        unread _ _ part exchange present ⟨resource, reply, same⟩)
      (fun ⟨fingerprint, reply, present⟩ => unspent _ _ part _ present ⟨fingerprint, reply, rfl⟩)
      (silent_posts (resolveAuthorization_avoids clock_silent fun _ _ sent => sent rfl) part)
      (resolveAuthorization_final part)
  have verifyAsks : Asks (verifyRepositoryAndBase options input) := Asks.bind (get_asks positive)
  rcases continues.bind_cases with ⟨_, part, same⟩ | ⟨base, after, _, rfl, _, continues⟩
  · cases same
    exact (((verify_reading (base_differs valid fields) _ _ part).readEnd
      (verifyAsks _ _ part)).later start).verdict
  rcases continues.bind_cases with ⟨_, part, same⟩ | ⟨middle, after, found, rfl, part, ends⟩
  · cases same
    exact ((((reconcile_ends false .skippedExact _ _ part).readEnd
      (reconcile_asks positive named _ _ _ _ part)).later base).later start).verdict
  cases found with
  | some receipt => exact nomatch ends.done_cases.2
  | none =>
      have opened : Last (OpenReply input) middle := by
        rcases reconcile_ends false .skippedExact _ _ part with ⟨_, last⟩ | ⟨closed, _⟩
        · exact last
        · exact absurd rfl closed
      change Runs (if authorization.state = .consumed then _ else _) after (.error error) at ends
      split at ends
      · obtain ⟨rfl, same⟩ := ends.done_cases
        cases same
        rw [List.append_nil]
        exact .unseen ((opened.later base).later start) ⟨rfl, rfl⟩
      · rcases ends.recover_cases with ⟨_, _, same⟩ | ⟨creation, recovery, _, rfl, part, recovered⟩
        · exact nomatch same
        · rcases recovered_ends positive named part recovered with ends |
            ⟨attempted, last, stops⟩
          · exact (((ends.later middle).later base).later start).verdict
          · refine .sent (((last.later middle).later base).later start) ?_ stops
            exact attempted.mono fun _ present => List.mem_append_right _
              (List.mem_append_right _ (List.mem_append_right _ present))

end Errors

section Soundness

/-- The class of an error tells the truth exactly when the last reply of the call fits it. -/
theorem error_class_sound (script : Script) (calendar : Calendar) (options : LiveGitHubOptions)
    (input : GitHubReviewRequest) (earlier : List Trace) (trace : Trace)
    (error : GitHubEffectError) (valid : validateOptions options = .ok ())
    (runs : Runs (createMigrationReview script calendar options input) trace (.error error)) :
    ClassSound earlier trace error ↔ FittingEnd earlier input trace := by
  refine (review_verdict valid runs).sound earlier fun sent => ?_
  obtain ⟨_, silent | ⟨quiet, response, first⟩⟩ := review_shape runs
  · exact absurd silent sent
  · obtain ⟨mutation, reply, rest, rfl⟩ := first.starts
    obtain ⟨fingerprint, _, consumed, present, _⟩ := first.consumed
    exact ⟨fingerprint, _, List.mem_append_left _ present⟩

theorem error_class_sound_sample :
    ClassSound [] (sampleTrace ⟨404, .null⟩)
        (ambiguous "GitHub write outcome remains unknown after bounded reconciliation") ↔
      FittingEnd [] sampleSigned (sampleTrace ⟨404, .null⟩) :=
  error_class_sound sampleScript sampleCalendar sampleOptions sampleSigned []
    (sampleTrace ⟨404, .null⟩)
    (ambiguous "GitHub write outcome remains unknown after bounded reconciliation") (by decide)
    (sample_runs ⟨404, .null⟩ (Or.inl rfl))

/-- The base commit cannot be read, so that nothing is consumed and nothing is sent. -/
def unsentTrace : Trace :=
  (sampleTrace ⟨404, .null⟩).take 6 ++
    [⟨.get (.commit sampleSha), .ok ⟨500, .null⟩⟩, ⟨.get (.branch sampleHead), .ok ⟨404, .null⟩⟩]

/-- A caller is told to wait for an effect that was never sent. -/
theorem unsent_awaited :
    Runs (createMigrationReview sampleScript sampleCalendar sampleOptions sampleSigned) unsentTrace
        (.error (ambiguous "GitHub write outcome remains unknown after bounded reconciliation")) ∧
      ¬ ClassSound [] unsentTrace
        (ambiguous "GitHub write outcome remains unknown after bounded reconciliation") := by
  constructor
  · refine sample_start ⟨404, .null⟩ (Or.inl rfl) ?_
    have failed : Runs (create sampleScript sampleCalendar sampleOptions sampleSigned
        (hexText (123 * 16 ^ 60))) [⟨.get (.commit sampleSha), .ok ⟨500, .null⟩⟩]
        (.error (normalizeTransportError (.classified (statusError 500 .readBaseCommit))
          .readBaseCommit .retry)) := by
      apply Runs.bind_error
      rw [readBase]
      apply Runs.bind_error
      exact Runs.ask _ (.done _)
    exact failed.recover_error (sample_recovery _ (by decide))
  · rintro ⟨_, awaited⟩
    obtain ⟨call, known, fingerprint, reply, attempted⟩ := awaited rfl
    obtain rfl : call = unsentTrace := by simpa using known
    simp [unsentTrace, sampleTrace] at attempted

end Soundness

end LineageGuard.Github
