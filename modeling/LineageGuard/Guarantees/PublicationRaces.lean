import LineageGuard.Agent.Publications
import Mathlib.Tactic

/-
This file proves that concurrent publications of one branch agree on its pull request.
-/

namespace LineageGuard.Agent.PublicationPort

open Json Domain Attempt Dialogue Interleaving

section Discipline

/-- A generated branch has at most one open pull request, and it has none before it exists. -/
structure Sound (world : World) : Prop where
  headed : ∀ pull ∈ world.pulls, isGenerated pull.branch →
    world.heads (refName pull.branch) ≠ none
  single : ∀ pull ∈ world.pulls, ∀ other ∈ world.pulls, isGenerated pull.branch →
    pull.branch = other.branch → pull = other
  numbered : ∀ pull ∈ world.pulls, pull.number ≤ world.opened
  distinct : ∀ pull ∈ world.pulls, ∀ other ∈ world.pulls, pull.number = other.number → pull = other

/-- Nobody moves a generated branch, and only its creator opens its pull request. -/
structure Relies (index : ℕ) (before after : World) : Prop where
  heads : ∀ branch head, isGenerated branch → before.heads (refName branch) = some head →
    after.heads (refName branch) = some head
  pulls : ∀ pull ∈ before.pulls, isGenerated pull.branch → pull ∈ after.pulls
  own : ∀ pull ∈ after.pulls, isGenerated pull.branch → ∀ sha,
    before.heads (refName pull.branch) = some ⟨sha, some index⟩ → pull ∈ before.pulls

theorem Relies.refl (index : ℕ) (world : World) : Relies index world world where
  heads _ _ _ held := held
  pulls _ present _ := present
  own _ present _ _ _ := present

theorem Relies.trans {index : ℕ} {first second third : World} (before : Relies index first second)
    (after : Relies index second third) : Relies index first third where
  heads branch head generated held := after.heads branch head generated
    (before.heads branch head generated held)
  pulls pull present generated := after.pulls pull (before.pulls pull present generated) generated
  own pull present generated sha held := before.own pull
    (after.own pull present generated sha (before.heads _ _ generated held)) generated sha held

def publicationDiscipline : Discipline World :=
  ⟨Sound, Relies, Relies.refl, Relies.trans⟩

theorem refName_injective {branch other : String} (same : refName branch = refName other) :
    branch = other := by
  have joined := congrArg String.toList same
  rw [refName, refName, String.toList_append, String.toList_append] at joined
  exact String.toList_inj.mp (List.append_cancel_left joined)

theorem Sound.empty : Sound World.empty := by
  constructor <;> intro pull present <;> cases present

/-- A new branch has no pull request yet. -/
theorem Sound.create {world : World} (sound : Sound world) {ref : String} (head : Head) :
    Sound { world with heads := Function.update world.heads ref (some head) } where
  headed pull present generated := by
    show Function.update world.heads ref (some head) (refName pull.branch) ≠ none
    rw [Function.update_apply]
    split
    · exact Option.some_ne_none head
    · exact sound.headed pull present generated
  single := sound.single
  numbered := sound.numbered
  distinct := sound.distinct

theorem Relies.create {world : World} (index : ℕ) {ref : String} (missing : world.heads ref = none)
    (head : Head) :
    Relies index world { world with heads := Function.update world.heads ref (some head) } where
  heads branch found _ held := by
    show Function.update world.heads ref (some head) (refName branch) = some found
    rw [Function.update_apply, if_neg]
    · exact held
    · intro same
      rw [same, missing] at held
      cases held
  pulls _ present _ := present
  own _ present _ _ _ := present

/-- A pull request may be opened where a generated branch exists and has none. -/
theorem Sound.openPull {world : World} (sound : Sound world) {branch base : String}
    (held : isGenerated branch → world.heads (refName branch) ≠ none)
    (unopened : isGenerated branch → ∀ pull ∈ world.pulls, pull.branch ≠ branch) :
    Sound (world.openPull branch base) := by
  have later : ∀ pull ∈ world.pulls, pull.number ≠ world.opened + 1 :=
    fun pull present same => absurd (sound.numbered pull present) (by omega)
  constructor
  · intro pull present generated
    rcases List.mem_cons.mp present with rfl | earlier
    · exact held generated
    · exact sound.headed pull earlier generated
  · intro pull present other isOther generated same
    rcases List.mem_cons.mp present with rfl | earlier
    · rcases List.mem_cons.mp isOther with rfl | known
      · rfl
      · exact absurd same.symm (unopened generated other known)
    · rcases List.mem_cons.mp isOther with rfl | known
      · have sameBranch : pull.branch = branch := same
        exact absurd sameBranch (unopened (sameBranch ▸ generated) pull earlier)
      · exact sound.single pull earlier other known generated same
  · intro pull present
    rcases List.mem_cons.mp present with rfl | earlier
    · exact le_rfl
    · exact (sound.numbered pull earlier).trans (Nat.le_succ _)
  · intro pull present other isOther same
    rcases List.mem_cons.mp present with rfl | earlier
    · rcases List.mem_cons.mp isOther with rfl | known
      · rfl
      · exact absurd same.symm (later other known)
    · rcases List.mem_cons.mp isOther with rfl | known
      · exact absurd same (later pull earlier)
      · exact sound.distinct pull earlier other known same

theorem Relies.openPull {world : World} {index : ℕ} {branch base : String}
    (others : isGenerated branch → ∀ sha, world.heads (refName branch) ≠ some ⟨sha, some index⟩) :
    Relies index world (world.openPull branch base) where
  heads _ _ _ held := held
  pulls _ present _ := List.mem_cons_of_mem _ present
  own pull present generated sha held := by
    rcases List.mem_cons.mp present with rfl | earlier
    · exact absurd held (others generated sha)
    · exact earlier

/-- Other writers keep the discipline. -/
theorem changeWorld_kept (change : Change) {world : World} (sound : Sound world) :
    Sound (changeWorld change world) ∧ ∀ index, Relies index world (changeWorld change world) := by
  have elsewhere : ∀ (branch : String) (head : Option Head), isGenerated branch = false →
      ∀ other, isGenerated other →
        Function.update world.heads (refName branch) head (refName other) =
          world.heads (refName other) := by
    intro branch head plain other generated
    rw [Function.update_apply, if_neg]
    intro same
    rw [refName_injective same, plain] at generated
    cases generated
  have moved : ∀ (branch : String) (head : Option Head), isGenerated branch = false →
      Sound { world with heads := Function.update world.heads (refName branch) head } ∧
        ∀ index, Relies index world
          { world with heads := Function.update world.heads (refName branch) head } := by
    intro branch head plain
    refine ⟨⟨?_, sound.single, sound.numbered, sound.distinct⟩, fun index => ⟨?_, ?_, ?_⟩⟩
    · intro pull present generated
      show Function.update world.heads (refName branch) head (refName pull.branch) ≠ none
      rw [elsewhere branch head plain _ generated]
      exact sound.headed pull present generated
    · intro other found generated held
      show Function.update world.heads (refName branch) head (refName other) = some found
      rw [elsewhere branch head plain _ generated]
      exact held
    · exact fun _ present _ => present
    · exact fun _ present _ _ _ => present
  cases change with
  | push branch sha =>
      rw [changeWorld]
      split
      · exact ⟨sound, fun index => Relies.refl index world⟩
      · next plain => exact moved branch _ (Bool.eq_false_iff.mpr plain)
  | delete branch =>
      rw [changeWorld]
      split
      · exact ⟨sound, fun index => Relies.refl index world⟩
      · next plain => exact moved branch _ (Bool.eq_false_iff.mpr plain)
  | openPull branch base =>
      rw [changeWorld]
      split
      · exact ⟨sound, fun index => Relies.refl index world⟩
      · next plain =>
          exact ⟨sound.openPull (fun generated => absurd generated plain)
            fun generated => absurd generated plain,
            fun index => Relies.openPull fun generated => absurd generated plain⟩
  | closePull number =>
      have present : ∀ pull, pull ∈ (changeWorld (.closePull number) world).pulls →
          pull ∈ world.pulls := fun pull => List.mem_of_mem_filter
      refine ⟨⟨?_, ?_, ?_, ?_⟩, fun index => ⟨fun _ _ _ held => held, ?_, ?_⟩⟩
      · exact fun pull inside => sound.headed pull (present pull inside)
      · exact fun pull inside other isOther =>
          sound.single pull (present pull inside) other (present other isOther)
      · exact fun pull inside => sound.numbered pull (present pull inside)
      · exact fun pull inside other isOther =>
          sound.distinct pull (present pull inside) other (present other isOther)
      · intro pull inside generated
        exact List.mem_filter.mpr ⟨inside, by rw [generated, Bool.true_or]⟩
      · exact fun pull inside _ _ _ => present pull inside

end Discipline

section Steps

variable {link : ℕ → String} {index : ℕ} {world : World}

def Request.stores : Request → Bool
  | .createRef _ _ => true
  | .createPull _ => true
  | _ => false

theorem respond_quiet {request : Request} (quiet : request.stores = false) (choice : Choice) :
    (respond link index choice world request).2 = world := by
  cases request with
  | pulls branch base =>
      show (deliver choice.delivery world (_, world)).2 = world
      cases choice.delivery <;> rfl
  | createRef ref sha => cases quiet
  | createPull pull => cases quiet
  | _ => rfl

theorem allowed_refl (sound : Sound world) :
    publicationDiscipline.Allowed index world world :=
  ⟨sound, fun other _ => Relies.refl other world⟩

theorem deliver_allowed {Value : Type} {outcome : Fetched Value × World} (sound : Sound world)
    (allowed : publicationDiscipline.Allowed index world outcome.2) (delivery : Delivery) :
    publicationDiscipline.Allowed index world (deliver delivery world outcome).2 := by
  cases delivery with
  | answered => exact allowed
  | lost message => exact allowed
  | refused status detail => exact allowed_refl sound
  | dropped message => exact allowed_refl sound

theorem deliver_answered {Value : Type} {outcome : Fetched Value × World} {delivery : Delivery}
    {value : Value} (answered : (deliver delivery world outcome).1 = .answered value) :
    deliver delivery world outcome = outcome ∧ outcome.1 = .answered value := by
  cases delivery with
  | answered => exact ⟨rfl, answered⟩
  | lost message => cases answered
  | refused status detail => cases answered
  | dropped message => cases answered

theorem storeRef_allowed (sound : Sound world) (ref sha : String) :
    publicationDiscipline.Allowed index world (storeRef index world ref sha).2 := by
  rw [storeRef]
  split
  · exact allowed_refl sound
  · next missing => exact ⟨sound.create _, fun other _ => Relies.create other missing _⟩

/-- The publication created the branch, which has no pull request yet. -/
structure Owns (index : ℕ) (branch sha : String) (world : World) : Prop where
  head : world.heads (refName branch) = some ⟨sha, some index⟩
  unopened : ∀ pull ∈ world.pulls, pull.branch ≠ branch

theorem Owns.later {branch sha : String} {after : World} (owns : Owns index branch sha world)
    (generated : isGenerated branch) (relies : Relies index world after) :
    Owns index branch sha after where
  head := relies.heads branch _ generated owns.head
  unopened pull present same := by
    have held : world.heads (refName pull.branch) = some ⟨sha, some index⟩ := by
      rw [same]
      exact owns.head
    have earlier := relies.own pull present (by rwa [same]) sha held
    exact owns.unopened pull earlier same

theorem storeRef_owns (sound : Sound world) {branch sha : String} (generated : isGenerated branch)
    (answered : (storeRef index world (refName branch) sha).1 = .answered ()) :
    Owns index branch sha (storeRef index world (refName branch) sha).2 := by
  rw [storeRef] at answered ⊢
  split at answered
  · cases answered
  · next missing =>
      refine ⟨Function.update_self _ _ _, fun pull present same => ?_⟩
      refine sound.headed pull present (by rwa [same]) ?_
      rw [same]
      exact missing

theorem createRef_allowed (sound : Sound world) (ref sha : String) (choice : Choice) :
    publicationDiscipline.Allowed index world
      (respond link index choice world (.createRef ref sha)).2 :=
  deliver_allowed sound (storeRef_allowed sound ref sha) choice.delivery

/-- A publication owns the branch whose creation was answered. -/
theorem createRef_owns (sound : Sound world) {branch sha : String} (generated : isGenerated branch)
    {choice : Choice} (answered :
      (respond link index choice world (.createRef (refName branch) sha)).1 = .answered ()) :
    Owns index branch sha
      (respond link index choice world (.createRef (refName branch) sha)).2 := by
  have outcome : respond link index choice world (.createRef (refName branch) sha) =
      deliver choice.delivery world (storeRef index world (refName branch) sha) := rfl
  rw [outcome] at answered ⊢
  obtain ⟨same, isStored⟩ := deliver_answered answered
  rw [same]
  exact storeRef_owns sound generated isStored

/-- The branch has a head of the publication, and the pull request is open. -/
structure Opened (index : ℕ) (link : ℕ → String) (branch sha prUrl : String) (prNumber : ℕ)
    (world : World) : Prop where
  head : world.heads (refName branch) = some ⟨sha, some index⟩
  pull : ∃ pull ∈ world.pulls, pull.branch = branch ∧ pull.number = prNumber ∧
    link pull.number = prUrl

theorem storePull_allowed (sound : Sound world) {sha : String} (pull : NewPull)
    (owns : Owns index pull.head sha world) :
    publicationDiscipline.Allowed index world (storePull link world pull).2 := by
  rw [storePull]
  split
  · exact allowed_refl sound
  · refine ⟨sound.openPull (fun _ => ?_) fun _ => owns.unopened, fun other apart => ?_⟩
    · rw [owns.head]
      exact Option.some_ne_none _
    · refine Relies.openPull fun _ found held => ?_
      rw [owns.head] at held
      cases held
      exact apart rfl

/-- The head of a branch stays where it is while its pull request is opened. -/
theorem storePull_heads (pull : NewPull) : (storePull link world pull).2.heads = world.heads := by
  rw [storePull]
  split <;> rfl

theorem deliver_heads {Value : Type} {outcome : Fetched Value × World}
    (same : outcome.2.heads = world.heads) (delivery : Delivery) :
    (deliver delivery world outcome).2.heads = world.heads := by
  cases delivery with
  | answered => exact same
  | lost message => exact same
  | refused status detail => rfl
  | dropped message => rfl

theorem storePull_opened {sha prUrl : String} {prNumber : ℕ} (pull : NewPull)
    (owns : Owns index pull.head sha world)
    (answered : (storePull link world pull).1 = .answered (prUrl, prNumber)) :
    Opened index link pull.head sha prUrl prNumber (storePull link world pull).2 := by
  rw [storePull] at answered ⊢
  split at answered
  · cases answered
  · next free =>
      cases answered
      rw [if_neg free]
      exact ⟨owns.head, _, List.mem_cons_self, rfl, rfl, rfl⟩

theorem readRef_answered {delivery : Delivery} {branch : String} {sha : Option String}
    (answered : readRef delivery world branch = .answered sha) :
    ∃ head, world.heads (refName branch) = some head ∧ sha = some head.sha := by
  cases delivery with
  | answered =>
      rw [readRef] at answered
      split at answered
      · next head held =>
          cases answered
          exact ⟨head, held, rfl⟩
      · cases answered
  | refused status detail =>
      rw [readRef] at answered
      split at answered <;> cases answered
  | dropped message => cases answered
  | lost message => cases answered

/-- A listed pull request is open on the branch. -/
theorem listPulls_answered {choice : Choice} {branch base : String}
    {pulls : List PullRequestResponse}
    (answered : (deliver choice.delivery world (listPulls link choice world branch base, world)).1 =
      .answered pulls) :
    ∀ shown ∈ pulls, ∃ pull ∈ world.pulls, pull.branch = branch ∧ shown.number = some pull.number ∧
      shown.htmlUrl = some (link pull.number) := by
  obtain ⟨_, isList⟩ := deliver_answered answered
  rw [listPulls] at isList
  cases isList
  intro shown present
  obtain ⟨pull, isListed, rfl⟩ := List.mem_map.mp present
  obtain ⟨isOpen, onIt⟩ := List.mem_filter.mp (List.mem_of_mem_take isListed)
  rw [onBranch, Bool.and_eq_true, beq_iff_eq, beq_iff_eq] at onIt
  exact ⟨pull, isOpen, onIt.1, rfl, rfl⟩

end Steps

section Readings

variable {script : Script} {utf8 : List ℕ → String} {options : ReconcileGitHubEffectOptions}
variable {link : ℕ → String} {index : ℕ} {world : World} {Result : Type}

/-- A program continues only with an answer. -/
theorem fetch_safe {request : Request} {goal : World → Result → Prop}
    {next : Answer request → Requests Result}
    (holds : ∀ between, Relies index world between → Sound between → ∀ choice,
      publicationDiscipline.Allowed index between (respond link index choice between request).2 ∧
        ∀ value, (respond link index choice between request).1 = .answered value →
          Safe publicationDiscipline (github link) goal index
            (respond link index choice between request).2 (next value)) :
    Safe publicationDiscipline (github link) goal index world (ghFetch request >>= next) := by
  rw [ghFetch, Program.bind_assoc]
  refine Safe.perform fun between others kept choice => ?_
  obtain ⟨allowed, continued⟩ := holds between others kept choice
  refine ⟨allowed, ?_⟩
  show Safe _ _ _ _ (respond link index choice between request).2 _
  change ∀ value, ((github link).respond index choice between request).1 = .answered value → _
    at continued
  split
  · next value isValue => exact continued value isValue
  · exact Safe.fail
  · exact Safe.fail

theorem settle_quiet {Value : Type} (outcome : Except String Value) :
    Quiet (github link) (settle outcome) := by
  rw [settle]
  trivial

theorem fetch_quiet {request : Request} (quiet : request.stores = false) :
    Quiet (github link) (ghFetch request) := by
  rw [ghFetch]
  refine Quiet.read (fun index choice world => respond_quiet quiet choice) fun fetched => ?_
  cases fetched <;> trivial

theorem readHeadSha_quiet : Quiet (github link) (readHeadSha options) := by
  rw [readHeadSha]
  refine Quiet.read (fun index choice world => rfl) fun fetched => ?_
  split
  · exact Quiet.settled fun _ => trivial
  · trivial
  · trivial
  · trivial

theorem assertPublicationBaseReachable_quiet (publicationBase : String) :
    Quiet (github link) (assertPublicationBaseReachable options publicationBase) := by
  rw [assertPublicationBaseReachable]
  exact Quiet.settled fun _ => (fetch_quiet rfl).bind fun response => settle_quiet _

theorem readTreeEntries_quiet (treeSha : String) :
    Quiet (github link) (readTreeEntries treeSha) := by
  rw [readTreeEntries]
  exact (fetch_quiet rfl).bind fun response => settle_quiet _

theorem assertArtifact_quiet (headEntries : TreeEntries) (artifact : Acceptance.GitHubArtifact) :
    Quiet (github link) (assertArtifact utf8 headEntries artifact) := by
  rw [assertArtifact]
  exact Quiet.settled fun _ => (fetch_quiet rfl).bind fun _ => Quiet.settled fun _ => settle_quiet _

theorem checkHead_quiet (headSha : String) :
    Quiet (github link) (checkHead utf8 options headSha) := by
  rw [checkHead]
  refine (fetch_quiet rfl).bind fun headCommit => Quiet.settled fun publicationBase => ?_
  refine (assertPublicationBaseReachable_quiet publicationBase).bind fun _ => ?_
  refine (fetch_quiet rfl).bind fun baseCommit => Quiet.settled fun headTree => ?_
  refine (readTreeEntries_quiet headTree).bind fun headEntries => Quiet.settled fun baseTree => ?_
  refine (readTreeEntries_quiet baseTree).bind fun baseEntries => Quiet.settled fun _ => ?_
  exact (Quiet.forM _ fun artifact => assertArtifact_quiet headEntries artifact).bind
    fun _ => trivial

theorem reconcileHead_quiet (headSha : String) :
    Quiet (github link) (reconcileHead script utf8 options headSha) := by
  rw [reconcileHead]
  refine (checkHead_quiet headSha).bind fun publicationBase => ?_
  rw [readExactDraftPullRequest]
  exact ((fetch_quiet rfl).bind fun pulls => settle_quiet _).bind fun pull => trivial

theorem reconcileGitHubEffect_quiet :
    Quiet (github link) (reconcileGitHubEffect script utf8 options) := by
  rw [reconcileGitHubEffect]
  refine readHeadSha_quiet.bind fun found => ?_
  cases found with
  | none => trivial
  | some headSha => exact (reconcileHead_quiet headSha).bind fun receipt => trivial

/-- An open pull request of a generated branch stays open. -/
theorem Relies.pull {after : World} (relies : Relies index world after) {branch prUrl : String}
    {prNumber : ℕ} (generated : isGenerated branch)
    (isOpen : ∃ pull ∈ world.pulls, pull.branch = branch ∧ pull.number = prNumber ∧
      link pull.number = prUrl) :
    ∃ pull ∈ after.pulls, pull.branch = branch ∧ pull.number = prNumber ∧
      link pull.number = prUrl := by
  obtain ⟨pull, present, onBranch, others⟩ := isOpen
  have stays := relies.pulls pull present (by rw [onBranch]; exact generated)
  exact ⟨pull, stays, onBranch, others⟩

/-- A receipt names the head of its branch and its open pull request. -/
structure Standing (index : ℕ) (link : ℕ → String) (receipt : GitHubReviewOutput) (world : World) :
    Prop where
  generated : isGenerated receipt.headBranch
  head : ∃ creator, world.heads (refName receipt.headBranch) = some ⟨receipt.headSha, creator⟩ ∧
    (receipt.outcome = .created → creator = some index)
  pull : ∃ pull ∈ world.pulls, pull.branch = receipt.headBranch ∧
    pull.number = receipt.prNumber ∧ link pull.number = receipt.prUrl

theorem Standing.later {receipt : GitHubReviewOutput} {after : World}
    (standing : Standing index link receipt world) (relies : Relies index world after) :
    Standing index link receipt after where
  generated := standing.generated
  head := by
    obtain ⟨creator, held, own⟩ := standing.head
    exact ⟨creator, relies.heads _ _ standing.generated held, own⟩
  pull := relies.pull standing.generated standing.pull

/-- The branch has the head that was read. -/
def HeadIs (branch sha : String) (world : World) : Prop :=
  ∃ creator, world.heads (refName branch) = some ⟨sha, creator⟩

theorem HeadIs.later {branch sha : String} {after : World} (head : HeadIs branch sha world)
    (generated : isGenerated branch) (relies : Relies index world after) :
    HeadIs branch sha after := by
  obtain ⟨creator, held⟩ := head
  exact ⟨creator, relies.heads _ _ generated held⟩

theorem readHeadSha_spec (generated : isGenerated options.branchName) :
    Safe publicationDiscipline (github link)
      (fun later found => ∀ sha, found = some sha → HeadIs options.branchName sha later) index world
      (readHeadSha options) := by
  rw [readHeadSha]
  refine Safe.read (fun _ _ => rfl) fun between others kept choice => ?_
  split
  · next sha isSha =>
      obtain ⟨head, held, isHead⟩ := readRef_answered isSha
      refine Safe.settled fun found isFound => Safe.pure fun later after _ => ?_
      intro sha isResult
      cases isResult
      have same : head.sha = found := by
        rw [isHead, filled, present_ok, Option.filter_eq_some_iff] at isFound
        exact Option.some.inj isFound.1
      rw [← same]
      exact HeadIs.later ⟨head.creator, held⟩ generated after
  · exact Safe.pure fun later _ _ sha isSha => by cases isSha
  · exact Safe.fail
  · exact Safe.fail

theorem checkPulls_ok {pulls : List PullRequestResponse} {headSha publicationBase prUrl : String}
    {prNumber : ℕ} (checked : checkPulls options pulls headSha publicationBase =
      .ok (prUrl, prNumber)) :
    ∃ pull, pulls = [pull] ∧ pull.htmlUrl = some prUrl ∧ pull.number = some prNumber ∧
      pull.draft = some true ∧ bindingIsExact options pull headSha publicationBase := by
  unfold checkPulls at checked
  split at checked
  · next pull =>
      simp only [bind_ok, present_ok, require_ok, pure_ok] at checked
      obtain ⟨draft, isDraft, _, exact_, rfl⟩ := checked
      simp only [draftOf, Option.bind_eq_bind, Option.bind_eq_some_iff] at isDraft
      obtain ⟨htmlUrl, isUrl, number, isNumber, shown⟩ := isDraft
      split at shown
      · next valid =>
          cases shown
          exact ⟨pull, rfl, isUrl, isNumber, valid.1, exact_⟩
      · cases shown
  · cases checked

theorem reconcileHead_spec (generated : isGenerated options.branchName) {headSha : String}
    (sound : Sound world) (head : HeadIs options.branchName headSha world) :
    Safe publicationDiscipline (github link)
      (fun later receipt => receipt.headBranch = options.branchName ∧
        Standing index link receipt later) index world
      (reconcileHead script utf8 options headSha) := by
  rw [reconcileHead]
  refine ((checkHead_quiet headSha).safe (Relies.refl index world)).andThen sound
    fun checked publicationBase _ relies => ?_
  rw [readExactDraftPullRequest, Program.bind_assoc]
  refine fetch_safe fun between others kept choice => ⟨?_, fun pulls isPulls => ?_⟩
  · rw [respond_quiet rfl]
    exact allowed_refl kept
  · rw [respond_quiet rfl]
    refine Safe.settled fun found isFound => Safe.pure fun later after _ => ?_
    obtain ⟨shown, rfl, isUrl, isNumber, _⟩ := checkPulls_ok isFound
    obtain ⟨pull, present, onBranch, number, url⟩ := listPulls_answered isPulls shown
      List.mem_cons_self
    rw [isUrl, Option.some.injEq] at url
    rw [isNumber, Option.some.injEq] at number
    obtain ⟨creator, held⟩ := (head.later generated relies).later generated others
    refine ⟨rfl, ?_⟩
    refine Standing.later (?_ : Standing index link _ between) after
    refine ⟨generated, ?_, ?_⟩
    · exact ⟨creator, held, fun created => by cases created⟩
    · exact ⟨pull, present, onBranch, number.symm, url.symm⟩

theorem reconcileGitHubEffect_spec (generated : isGenerated options.branchName)
    (sound : Sound world) :
    Safe publicationDiscipline (github link)
      (fun later found => ∀ receipt, found = some receipt →
        receipt.headBranch = options.branchName ∧ Standing index link receipt later) index world
      (reconcileGitHubEffect script utf8 options) := by
  rw [reconcileGitHubEffect]
  refine (readHeadSha_spec generated).andThen sound fun later found kept isHead => ?_
  cases found with
  | none => exact Safe.pure fun _ _ _ receipt isReceipt => by cases isReceipt
  | some headSha =>
      refine (reconcileHead_spec generated kept (isHead headSha rfl)).andThen kept
        fun last receipt _ standing => Safe.pure fun _ after _ => ?_
      intro result isResult
      cases isResult
      exact ⟨standing.1, standing.2.later after⟩

end Readings

section Publishing

variable {script : Script} {calendar : Github.Calendar} {utf8 : List ℕ → String}
variable {environment : Environment} {input : GitHubReviewInput}
variable {options : ReconcileGitHubEffectOptions}
variable {link : ℕ → String} {index : ℕ} {world : World} {commitSha : String}

theorem createBlobs_quiet (artifacts : List Acceptance.GitHubArtifact) :
    Quiet (github link) (createBlobs artifacts) := by
  induction artifacts with
  | nil => trivial
  | cons artifact rest ih =>
      rw [createBlobs]
      exact (fetch_quiet rfl).bind fun sha => ih.bind fun others => trivial

/-- The objects of a commit move no branch. -/
theorem createCommit_quiet (baseSha : String) :
    Quiet (github link) (createCommit script calendar input baseSha) := by
  rw [createCommit]
  refine (fetch_quiet rfl).bind fun baseCommit => Quiet.settled fun metadata => ?_
  refine (createBlobs_quiet _).bind fun treeEntries => ?_
  exact (fetch_quiet rfl).bind fun treeSha => fetch_quiet rfl

theorem Opened.later {branch prUrl : String} {prNumber : ℕ} {after : World}
    (opened : Opened index link branch commitSha prUrl prNumber world)
    (generated : isGenerated branch) (relies : Relies index world after) :
    Opened index link branch commitSha prUrl prNumber after where
  head := relies.heads branch _ generated opened.head
  pull := relies.pull generated opened.pull

/-- A recovered pull request is the one of the branch that the publication created. -/
theorem recoverPull_spec (generated : isGenerated options.branchName) (sound : Sound world)
    (head : world.heads (refName options.branchName) = some ⟨commitSha, some index⟩) :
    Safe publicationDiscipline (github link)
      (fun later found => Opened index link options.branchName commitSha found.1 found.2 later)
      index world (recoverPull script utf8 options commitSha) := by
  rw [recoverPull]
  refine Safe.after (reconcileGitHubEffect_spec generated sound) reconcileGitHubEffect_quiet sound
    fun later found _ relies known => ?_
  cases found with
  | none => exact Safe.fail
  | some recovered =>
      obtain ⟨onBranch, standing⟩ := known recovered rfl
      obtain ⟨pull, present, others⟩ := standing.pull
      rw [onBranch] at others
      have opened : Opened index link options.branchName commitSha recovered.prUrl
          recovered.prNumber later :=
        ⟨relies.heads _ _ generated head, pull, present, others⟩
      dsimp only
      split_ifs
      · exact Safe.pure fun last after _ => opened.later generated after
      · exact Safe.fail

/-- The handler of a request gets the text of its failure. -/
theorem fetch_recover (request : Request) (handler : String → Requests (Answer request)) :
    (ghFetch request).recover handler = .ask request fun reply =>
      match reply with
      | .answered value => pure value
      | .refused status detail => handler (apiError status detail)
      | .failed message => handler message := by
  show Program.ask request _ = Program.ask request _
  congr 1
  funext reply
  cases reply <;> rfl

theorem openPull_spec (generated : isGenerated options.branchName)
    (owns : Owns index options.branchName commitSha world) :
    Safe publicationDiscipline (github link)
      (fun later found => Opened index link options.branchName commitSha found.1 found.2 later)
      index world (openPull script utf8 environment input options commitSha) := by
  rw [openPull, fetch_recover]
  intro between others kept choice
  have owned := owns.later generated others
  let pull := newPull environment input options.branchName
  have stored : publicationDiscipline.Allowed index between (storePull link between pull).2 :=
    storePull_allowed kept pull owned
  have allowed := deliver_allowed kept stored choice.delivery
  have head : (deliver choice.delivery between (storePull link between pull)).2.heads =
      between.heads := deliver_heads (storePull_heads pull) choice.delivery
  have recovered : Safe publicationDiscipline (github link)
      (fun later found => Opened index link options.branchName commitSha found.1 found.2 later)
      index (deliver choice.delivery between (storePull link between pull)).2
      (recoverPull script utf8 options commitSha) :=
    recoverPull_spec generated allowed.1 (by rw [head]; exact owned.head)
  refine ⟨allowed, ?_⟩
  beta_reduce
  split
  · next found isFound =>
      refine Safe.pure fun last after _ => Opened.later ?_ generated after
      obtain ⟨same, isStored⟩ := deliver_answered isFound
      show Opened _ _ _ _ _ _ (deliver choice.delivery between (storePull link between pull)).2
      rw [same]
      exact storePull_opened pull owned isStored
  · exact recovered.recover_fail _
  · exact recovered.recover_fail _

theorem publish_spec (generated : isGenerated options.branchName) (sound : Sound world) :
    Safe publicationDiscipline (github link)
      (fun later receipt => Standing index link receipt later) index world
      (publish script calendar utf8 environment input options) := by
  rw [publish]
  refine ((createCommit_quiet options.baseSha).safe (Relies.refl index world)).andThen sound
    fun prepared commitSha kept _ => ?_
  refine fetch_safe fun between others sound choice =>
    ⟨createRef_allowed sound _ commitSha choice, fun _ isCreated => ?_⟩
  have owns := createRef_owns sound generated isCreated
  refine (openPull_spec generated owns).andThen (createRef_allowed sound _ commitSha choice).1
    fun opened found _ isOpen => ?_
  refine Safe.pure fun last after _ => Standing.later ?_ after
  obtain ⟨pull, present, others⟩ := isOpen.pull
  exact ⟨generated, ⟨_, isOpen.head, fun _ => rfl⟩, pull, present, others⟩

theorem isGenerated_start (rest : String) : isGenerated (generatedStart ++ rest) := by
  rw [isGenerated, List.isPrefixOf_iff_prefix, String.toList_append]
  exact List.prefix_append _ _

theorem isGenerated_numbered (number last : String) :
    isGenerated ("lineageguard/generated/pr-" ++ number ++ "-" ++ last) := by
  have split : "lineageguard/generated/pr-" = generatedStart ++ "pr-" := by decide
  simp only [split, String.append_assoc]
  exact isGenerated_start _

theorem generatedBranchName_generated {candidateFingerprint branchName : String} {prNumber : Option ℤ}
    (named : generatedBranchName candidateFingerprint prNumber = .ok branchName) :
    isGenerated branchName := by
  cases prNumber with
  | none =>
      simp only [generatedBranchName, bind_ok, require_ok, pure_ok] at named
      obtain ⟨_, _, rfl⟩ := named
      exact isGenerated_start _
  | some number =>
      simp only [generatedBranchName, bind_ok, require_ok, pure_ok] at named
      obtain ⟨_, _, _, _, rfl⟩ := named
      exact isGenerated_numbered _ _

theorem createReview_spec (sound : Sound world) :
    Safe publicationDiscipline (github link)
      (fun later receipt => Standing index link receipt later) index world
      (createReview script calendar utf8 environment input) := by
  rw [createReview]
  refine Safe.settled fun branchName isName => ?_
  rw [mapError_ok] at isName
  have generated := generatedBranchName_generated isName
  refine ((fetch_quiet rfl).safe (Relies.refl index world)).andThen sound
    fun read baseRef kept _ => Safe.settled fun baseSha _ => ?_
  refine (reconcileGitHubEffect_spec generated kept).andThen kept fun later found known isKnown => ?_
  cases found with
  | none => exact publish_spec generated known
  | some receipt =>
      exact Safe.pure fun last after _ => (isKnown receipt rfl).2.later after

end Publishing

section Agreement

variable {deployment : Deployment} {pool : Workers}

theorem review_spec (publication : Publication) (index : ℕ) (world : World) (sound : Sound world) :
    Safe publicationDiscipline (github deployment.link)
      (fun later receipt => Standing index deployment.link receipt later) index world
      (deployment.review publication) := createReview_spec sound

theorem workers_kept (reached : Runs.Reachable (workerStep deployment) Workers.start pool) :
    KeptAt publicationDiscipline (github deployment.link)
      (fun index later receipt => Standing index deployment.link receipt later) pool := by
  refine KeptAt.run ⟨Sound.empty, fun index program held => ?_⟩ review_spec
    (fun change world sound => changeWorld_kept change sound) reached
  rw [Workers.start, List.getElem?_nil] at held
  cases held

theorem Standing.agree {first second : ℕ} {link : ℕ → String}
    {receipt other : GitHubReviewOutput} {world : World} (sound : Sound world)
    (standing : Standing first link receipt world) (also : Standing second link other world)
    (same : receipt.headBranch = other.headBranch) :
    receipt.headSha = other.headSha ∧ receipt.prNumber = other.prNumber ∧
      receipt.prUrl = other.prUrl ∧
      (receipt.outcome = .created → other.outcome = .created → first = second) := by
  obtain ⟨creator, held, own⟩ := standing.head
  obtain ⟨_, found, others⟩ := also.head
  rw [← same, held, Option.some.injEq, Head.mk.injEq] at found
  obtain ⟨pull, present, onBranch, number, url⟩ := standing.pull
  obtain ⟨last, isLast, onOther, otherNumber, otherUrl⟩ := also.pull
  have onePull : pull = last := by
    refine sound.single pull present last isLast ?_ ?_
    · rw [onBranch]
      exact standing.generated
    · rw [onBranch, onOther, same]
  refine ⟨found.1, ?_, ?_, fun created otherCreated => ?_⟩
  · rw [← number, ← otherNumber, onePull]
  · rw [← url, ← otherUrl, onePull]
  · rw [own created, others otherCreated, Option.some.injEq] at found
    exact found.2

end Agreement

section Cooperation

variable {script : Script} {calendar : Github.Calendar} {utf8 : List ℕ → String}
variable {environment : Environment} {input : GitHubReviewInput}
variable {options : ReconcileGitHubEffectOptions}
variable {link : ℕ → String} {index : ℕ} {world after last : World} {Result : Type}
variable {later : Requests Result}

theorem fetch_advances {request : Request} {value : Answer request}
    {next : Answer request → Requests Result} (choice : Choice)
    (answered : respond link index choice world request = (.answered value, after))
    (rest : Advances (github link) index after (next value) last later) :
    Advances (github link) index world (ghFetch request >>= next) last later := by
  have replied : (github link).respond index choice world request = (.answered value, after) :=
    answered
  rw [ghFetch, Program.bind_assoc]
  refine .ask choice ?_
  rw [replied]
  exact rest

theorem settle_ok {Value : Type} {outcome : Except String Value} {value : Value}
    {next : Value → Requests Result} (settled : outcome = .ok value) :
    settle outcome >>= next = next value := by
  rw [settled]
  rfl

/-- Every request is carried out and answered, and the new objects get these names. -/
def sampleChoice : Choice where
  delivery := .answered
  objects
    | .commit _ => .answered ⟨some [], some "tree", some "2026-01-01T00:00:00Z"⟩
    | .createBlob content => .answered content
    | .createTree base _ => .answered base
    | .createCommit commit => .answered commit.parent
    | _ => .failed "unreachable"
  draft _ := some true
  base _ := ⟨none, none, none⟩
  head _ := ⟨none, none, none⟩

theorem createBlobs_advances (artifacts : List Acceptance.GitHubArtifact)
    {next : List Acceptance.TreeEntry → Requests Result}
    (rest : ∀ entries, Advances (github link) index world (next entries) last later) :
    Advances (github link) index world (createBlobs artifacts >>= next) last later := by
  induction artifacts generalizing next with
  | nil => exact rest []
  | cons artifact others ih =>
      rw [createBlobs, Program.bind_assoc]
      refine fetch_advances sampleChoice rfl ?_
      rw [Program.bind_assoc]
      exact ih fun entries => rest _

theorem sampleDate_accepted : isRfc3339 "2026-01-01T00:00:00Z" = true := by decide

theorem createCommit_advances {timestamp : ℤ} {baseSha : String} {next : String → Requests Result}
    (dated : calendar.parseDate "2026-01-01T00:00:00Z" = some timestamp)
    (rest : Advances (github link) index world (next baseSha) last later) :
    Advances (github link) index world (createCommit script calendar input baseSha >>= next) last
      later := by
  have metadata : deterministicCommitMetadata calendar
      ⟨some [], some "tree", some "2026-01-01T00:00:00Z"⟩ =
        .ok ⟨"tree", "LineageGuard Bot", "lineageguard-bot@users.noreply.github.com",
          calendar.toISOString timestamp⟩ := by
    have accepted : (some "2026-01-01T00:00:00Z").filter isRfc3339 =
        some "2026-01-01T00:00:00Z" := by
      rw [Option.filter_some, sampleDate_accepted, if_pos rfl]
    simp only [deterministicCommitMetadata, filled, accepted, Option.bind_some, dated]
    rfl
  rw [createCommit, Program.bind_assoc]
  refine fetch_advances sampleChoice rfl ?_
  rw [Program.bind_assoc, settle_ok metadata, Program.bind_assoc]
  refine createBlobs_advances _ fun entries => ?_
  rw [Program.bind_assoc]
  exact fetch_advances sampleChoice rfl (fetch_advances sampleChoice rfl rest)

/-- The branch exists and has no pull request yet. -/
def World.createBranch (world : World) (index : ℕ) (branch sha : String) : World :=
  { world with heads := Function.update world.heads (refName branch) (some ⟨sha, some index⟩) }

theorem createBranch_self {branch sha : String} :
    (world.createBranch index branch sha).heads (refName branch) = some ⟨sha, some index⟩ :=
  Function.update_self _ _ _

theorem createBranch_pulls {branch sha : String} :
    (world.createBranch index branch sha).pulls = world.pulls := rfl

theorem openPull_heads {branch base : String} :
    (world.openPull branch base).heads = world.heads := rfl

theorem createBranch_other {branch other sha : String} (apart : other ≠ branch) :
    (world.createBranch index branch sha).heads (refName other) = world.heads (refName other) :=
  Function.update_of_ne (fun same => apart (refName_injective same)) _ _

/-- A publication on a free branch advances to its pull request. -/
theorem createReview_advances {timestamp : ℤ} {branchName baseSha : String} {creator : Option ℕ}
    (dated : calendar.parseDate "2026-01-01T00:00:00Z" = some timestamp)
    (named : publicationName script environment input = .ok branchName)
    (based : world.heads (refName environment.baseBranch) = some ⟨baseSha, creator⟩)
    (isFilled : baseSha ≠ "") (missing : world.heads (refName branchName) = none) :
    Advances (github link) index world (createReview script calendar utf8 environment input)
      (world.createBranch index branchName baseSha)
      (openPull script utf8 environment input ⟨environment.owner, environment.repo, branchName,
          environment.baseBranch, baseSha, artifactsOf input⟩ baseSha >>= fun found =>
        pure ⟨found.1, found.2, baseSha, branchName, receiptFingerprint script found.1 baseSha,
          .created, some baseSha⟩) := by
  have read : readRef .answered world environment.baseBranch = .answered (some baseSha) := by
    rw [readRef, based]
  have replied : (github link).respond index sampleChoice world (.ref branchName) =
      (.refused 404 "Not Found", world) := by
    show (readRef .answered world branchName, world) = _
    rw [readRef, missing]
  have found : filled (some baseSha) "Cannot resolve base branch SHA" = .ok baseSha := by
    rw [filled, present_ok, Option.filter_eq_some_iff]
    exact ⟨rfl, decide_eq_true isFilled⟩
  have created : storeRef index world (refName branchName) baseSha =
      (.answered (), world.createBranch index branchName baseSha) := by
    rw [storeRef, missing]
    rfl
  rw [createReview, named]
  show Advances _ _ _ (ghFetch (.ref environment.baseBranch) >>= _) _ _
  refine fetch_advances sampleChoice (Prod.ext read rfl) ?_
  rw [settle_ok found]
  show Advances _ _ world (reconcileGitHubEffect script utf8 _ >>= _) _ _
  rw [reconcileGitHubEffect, Program.bind_assoc, readHeadSha, Program.bind_assoc]
  refine .ask sampleChoice ?_
  rw [replied]
  show Advances _ _ world (publish script calendar utf8 environment input _) _ _
  rw [publish]
  refine createCommit_advances dated ?_
  refine fetch_advances sampleChoice created ?_
  exact .refl _ _

theorem openPull_advances {commitSha : String} {creator : Option ℕ}
    {next : String × ℕ → Requests Result}
    (held : world.heads (refName options.branchName) = some ⟨commitSha, creator⟩)
    (unopened : ∀ pull ∈ world.pulls, pull.branch ≠ options.branchName) :
    Advances (github link) index world
      (openPull script utf8 environment input options commitSha >>= next)
      (world.openPull options.branchName environment.baseBranch)
      (next (link (world.opened + 1), world.opened + 1)) := by
  have stored : storePull link world (newPull environment input options.branchName) =
      (.answered (link (world.opened + 1), world.opened + 1),
        world.openPull options.branchName environment.baseBranch) := by
    rw [storePull, if_neg]
    · rfl
    · rintro (missing | listed)
      · rw [newPull, held] at missing
        cases missing
      · obtain ⟨pull, present, onIt⟩ := List.any_eq_true.mp listed
        rw [onBranch, Bool.and_eq_true, beq_iff_eq, beq_iff_eq] at onIt
        exact unopened pull present onIt.1
  have replied : (github link).respond index sampleChoice world
      (.createPull (newPull environment input options.branchName)) =
        (.answered (link (world.opened + 1), world.opened + 1),
          world.openPull options.branchName environment.baseBranch) := stored
  rw [openPull, fetch_recover]
  refine .ask sampleChoice ?_
  rw [replied]
  exact .refl _ _

end Cooperation

section Samples

def sampleAssessment : RiskAssessment :=
  ⟨"change", none, .datahubGrounded, .block, .high, [], ⟨0, 0⟩⟩

def sampleReview : GitHubReviewInput where
  runId := "run"
  candidate := {
    sourceChangeFingerprint := hexText 0
    sourcePatchFingerprint := hexText 0
    sourceImpactContextFingerprint := hexText 0
    sourceEvidenceIds := []
    summary := "s"
    steps := []
    artifacts := [⟨.migrationDocument, "docs/migrations/a.md", "d"⟩]
    requiredReviewers := []
    compatibilityWindowDays := 1
    rollbackPlan := "p" }
  comparison := ⟨"change", sampleAssessment, sampleAssessment, false, "BLOCK", [], []⟩
  context := {
    changeId := "change"
    collectionOrigin := .live
    resolution := []
    collectedAt := ⟨0, 0⟩
    collectionStatus := .partially
    evidence := []
    failures := []
    impactContextFingerprint := hexText 0
    collectionFingerprint := hexText 0 }

def sampleDeployment : Deployment where
  script := Script.marking []
  calendar := ⟨fun _ => some 0, fun _ => "2026-01-01T00:00:00.000Z"⟩
  utf8 _ := ""
  owner := "owner"
  repo := "repo"
  link number := "pull/" ++ toString number

def samplePublication (number : ℤ) : Publication := ⟨"main", some number, sampleReview⟩

def sampleStem : String :=
  fingerprintPrefix (canonicalCandidateFingerprint sampleDeployment.script sampleReview.candidate) 12

def sampleBranch (number : ℤ) : String :=
  "lineageguard/generated/pr-" ++ number.repr ++ "-" ++ sampleStem

def sampleReceipt (number : ℤ) (opened : ℕ) : GitHubReviewOutput :=
  ⟨sampleDeployment.link opened, opened, "base", sampleBranch number,
    receiptFingerprint sampleDeployment.script (sampleDeployment.link opened) "base", .created,
    some "base"⟩

theorem samplePublication_named {number : ℤ} (positive : 0 < number) :
    publicationName sampleDeployment.script
        (sampleDeployment.environment (samplePublication number)) sampleReview =
      .ok (sampleBranch number) := by
  have digits := digest_fingerprint sampleDeployment.script (sampleDeployment.script.stringify
    (candidateIdentity sampleReview.candidate))
  simp only [publicationName, Deployment.environment, samplePublication, generatedBranchName,
    canonicalCandidateFingerprint, bind_ok, require_ok, pure_ok]
  exact ⟨(), require_ok.mpr digits, (), positive, rfl⟩

theorem sampleBranch_generated (number : ℤ) : isGenerated (sampleBranch number) :=
  isGenerated_numbered number.repr sampleStem

theorem between_injective {start first second separator last : String}
    (same : start ++ first ++ separator ++ last = start ++ second ++ separator ++ last) :
    first = second := by
  simpa only [String.append_left_inj, String.append_right_inj] using same

theorem sampleBranch_distinct : sampleBranch 2 ≠ sampleBranch 1 := by
  intro same
  have numbers : (2 : ℤ).repr = (1 : ℤ).repr :=
    @between_injective "lineageguard/generated/pr-" _ _ "-" sampleStem same
  exact absurd numbers (by decide)

/-- A world has the base of the publications and no branch of the number. -/
structure Vacant (number : ℤ) (world : World) : Prop where
  based : world.heads (refName "main") = some ⟨"base", none⟩
  missing : world.heads (refName (sampleBranch number)) = none
  unopened : ∀ pull ∈ world.pulls, pull.branch ≠ sampleBranch number

variable {pool : Workers}

theorem sample_branched
    (reached : Runs.Reachable (workerStep sampleDeployment) Workers.start pool) {number : ℤ}
    (positive : 0 < number) (vacant : Vacant number pool.world) :
    ∃ call next, Runs.Reachable (workerStep sampleDeployment) Workers.start
      ⟨pool.world.createBranch pool.programs.length (sampleBranch number) "base",
        pool.programs ++ [.ask call next]⟩ :=
  ⟨_, _, Advances.reached _ _ reached (createReview_advances rfl (samplePublication_named positive)
    vacant.based (by decide) vacant.missing)⟩

theorem sample_published
    (reached : Runs.Reachable (workerStep sampleDeployment) Workers.start pool) {number : ℤ}
    (positive : 0 < number) (vacant : Vacant number pool.world) :
    Runs.Reachable (workerStep sampleDeployment) Workers.start
      ⟨(pool.world.createBranch pool.programs.length (sampleBranch number) "base").openPull
          (sampleBranch number) "main",
        pool.programs ++ [.done (.ok (sampleReceipt number (pool.world.opened + 1)))]⟩ := by
  refine Advances.reached _ _ reached (Advances.trans (createReview_advances rfl
    (samplePublication_named positive) vacant.based (by decide) vacant.missing) ?_)
  have held : (pool.world.createBranch pool.programs.length (sampleBranch number) "base").heads
      (refName (sampleBranch number)) = some ⟨"base", some pool.programs.length⟩ :=
    createBranch_self
  exact Advances.trans (openPull_advances held vacant.unopened) (.refl _ _)

/-- The base of the publications exists before the first of them. -/
def sampleStart : Workers :=
  workerStep sampleDeployment Workers.start (.change (.push "main" "base"))

theorem sampleStart_heads : sampleStart.world.heads =
    Function.update (fun _ => none) (refName "main") (some ⟨"base", none⟩) := by
  show (changeWorld (.push "main" "base") World.empty).heads = _
  rw [changeWorld, if_neg (by decide)]
  rfl

theorem sampleStart_pulls : sampleStart.world.pulls = [] := by
  show (changeWorld (.push "main" "base") World.empty).pulls = _
  rw [changeWorld, if_neg (by decide)]
  rfl

theorem sampleBranch_main (number : ℤ) : sampleBranch number ≠ "main" := by
  intro same
  have generated := sampleBranch_generated number
  rw [same] at generated
  exact absurd generated (by decide)

theorem sampleStart_vacant (number : ℤ) : Vacant number sampleStart.world := by
  refine ⟨?_, ?_, ?_⟩
  · rw [sampleStart_heads, Function.update_self]
  · rw [sampleStart_heads, Function.update_of_ne]
    exact fun same => sampleBranch_main number (refName_injective same)
  · rw [sampleStart_pulls]
    exact fun pull present => absurd present List.not_mem_nil

theorem sampleStart_reached :
    Runs.Reachable (workerStep sampleDeployment) Workers.start sampleStart :=
  (Runs.Reachable.start _ _).next _

end Samples

end LineageGuard.Agent.PublicationPort
