import LineageGuard.Agent.PublicationPort
import LineageGuard.Library.Interleaving
import Mathlib.Tactic

/-
This file lets any number of publications share one repository with other writers.
-/

namespace LineageGuard.Agent.PublicationPort

open Json Domain Dialogue Interleaving

section Repository

/-- The head of a branch has the index of the publication that created it. -/
structure Head where
  sha : String
  creator : Option ℕ
  deriving DecidableEq

structure OpenPull where
  number : ℕ
  branch : String
  base : String
  deriving DecidableEq

structure World where
  heads : String → Option Head
  pulls : List OpenPull
  opened : ℕ

def World.empty : World := ⟨fun _ => none, [], 0⟩

/-- A request may be lost before it is carried out, and its answer may be lost afterwards. -/
inductive Delivery
  | answered
  | refused (status : ℕ) (detail : String)
  | dropped (message : String)
  | lost (message : String)

/-- The model leaves the objects of the repository and the sides of a pull request open. -/
structure Choice where
  delivery : Delivery
  objects : (request : Request) → Response request
  draft : OpenPull → Option Bool
  base : OpenPull → PullSide
  head : OpenPull → PullSide

variable (link : ℕ → String)

def refName (branch : String) : String := "refs/heads/" ++ branch

/-- Only a missing branch is answered with the status 404. -/
def readRef (delivery : Delivery) (world : World) (branch : String) : Fetched (Option String) :=
  match delivery with
  | .answered =>
      match world.heads (refName branch) with
      | some head => .answered (some head.sha)
      | none => .refused 404 "Not Found"
  | .refused status detail => if status = 404 then .failed detail else .refused status detail
  | .dropped message => .failed message
  | .lost message => .failed message

def onBranch (branch base : String) (pull : OpenPull) : Bool :=
  pull.branch == branch && pull.base == base

def shownPull (choice : Choice) (pull : OpenPull) : PullRequestResponse :=
  ⟨some (link pull.number), some pull.number, choice.draft pull, choice.base pull,
    choice.head pull⟩

/-- The listing ends after two pull requests. -/
def listPulls (choice : Choice) (world : World) (branch base : String) :
    Fetched (List PullRequestResponse) :=
  .answered (((world.pulls.filter (onBranch branch base)).take 2).map (shownPull link choice))

def storeRef (index : ℕ) (world : World) (ref sha : String) : Fetched Unit × World :=
  match world.heads ref with
  | some _ => (.refused 422 "Reference already exists", world)
  | none =>
      (.answered (), { world with heads := Function.update world.heads ref (some ⟨sha, index⟩) })

def World.openPull (world : World) (branch base : String) : World :=
  { world with
    pulls := ⟨world.opened + 1, branch, base⟩ :: world.pulls
    opened := world.opened + 1 }

/-- A branch has one open pull request for each base. -/
def storePull (world : World) (pull : NewPull) : Fetched (String × ℕ) × World :=
  if (world.heads (refName pull.head)).isNone ∨ world.pulls.any (onBranch pull.head pull.base) then
    (.refused 422 "Validation Failed", world)
  else (.answered (link (world.opened + 1), world.opened + 1), world.openPull pull.head pull.base)

def deliver {Value : Type} (delivery : Delivery) (world : World)
    (outcome : Fetched Value × World) : Fetched Value × World :=
  match delivery with
  | .answered => outcome
  | .refused status detail => (.refused status detail, world)
  | .dropped message => (.failed message, world)
  | .lost message => (.failed message, outcome.2)

def respond (index : ℕ) (choice : Choice) (world : World) :
    (request : Request) → Response request × World
  | .ref branch => (readRef choice.delivery world branch, world)
  | .pulls branch base =>
      deliver choice.delivery world (listPulls link choice world branch base, world)
  | .createRef ref sha => deliver choice.delivery world (storeRef index world ref sha)
  | .createPull pull => deliver choice.delivery world (storePull link world pull)
  | request => (choice.objects request, world)

end Repository

section Writers

inductive Change
  | push (branch sha : String)
  | delete (branch : String)
  | openPull (branch base : String)
  | closePull (number : ℕ)

def generatedStart : String := "lineageguard/generated/"

def isGenerated (branch : String) : Bool := generatedStart.toList.isPrefixOf branch.toList

/-- Other writers leave the generated branches and their pull requests alone. -/
def changeWorld : Change → World → World
  | .push branch sha, world =>
      if isGenerated branch then world
      else { world with heads := Function.update world.heads (refName branch) (some ⟨sha, none⟩) }
  | .delete branch, world =>
      if isGenerated branch then world
      else { world with heads := Function.update world.heads (refName branch) none }
  | .openPull branch base, world =>
      if isGenerated branch then world else world.openPull branch base
  | .closePull number, world =>
      { world with pulls := world.pulls.filter fun pull =>
          isGenerated pull.branch || pull.number != number }

def github (link : ℕ → String) : Semantics World Choice Change Request Response :=
  ⟨respond link, changeWorld⟩

end Writers

section Publications

/-- The workers publish to one repository, each for its own candidate. -/
structure Publication where
  baseBranch : String
  sourcePrNumber : Option ℤ
  input : GitHubReviewInput

structure Deployment where
  script : Script
  calendar : Github.Calendar
  utf8 : List ℕ → String
  owner : String
  repo : String
  link : ℕ → String

variable (deployment : Deployment)

def Deployment.environment (publication : Publication) : Environment :=
  ⟨deployment.owner, deployment.repo, publication.baseBranch, publication.sourcePrNumber⟩

def Deployment.review (publication : Publication) : Requests GitHubReviewOutput :=
  createReview deployment.script deployment.calendar deployment.utf8
    (deployment.environment publication) publication.input

def stopped : String := "The worker stopped"

abbrev Workers : Type := Pool World Request Response String GitHubReviewOutput

def Workers.start : Workers := ⟨World.empty, []⟩

def workerStep : Workers → Event Choice Change Publication → Workers :=
  step (github deployment.link) deployment.review stopped

end Publications

end LineageGuard.Agent.PublicationPort
