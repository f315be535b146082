import LineageGuard.Library.Attempt
import LineageGuard.Library.Json
import Mathlib.Tactic

/-
This file translates the comparison of a source with the source that was analysed.
-/

namespace LineageGuard.Domain

open Attempt

structure EnvelopeFile where
  path : String
  patchSha256 : String
  blobSha : Option String
  deriving DecidableEq

/-- The origin, the state and the normalized change of a source are literals. -/
structure SourceChangeEnvelope where
  repository : String
  prNumber : ℕ
  prUrl : String
  baseSha : String
  headSha : String
  files : List EnvelopeFile
  selectedPath : String
  sourceFingerprint : String
  deriving DecidableEq

/-- The error names what moved between the two sources. -/
structure SourceDriftError where
  checkpoint : String
  field : String
  expected : String
  observed : String
  deriving DecidableEq

def SourceDriftError.message (error : SourceDriftError) : String :=
  "SOURCE_DRIFT at " ++ error.checkpoint ++ ": " ++ error.field ++ " changed"

/-- The digest of the patch at the selected path may be absent. -/
def SourceChangeEnvelope.patch (envelope : SourceChangeEnvelope) : Option String :=
  (envelope.files.find? fun file => file.path = envelope.selectedPath).map (·.patchSha256)

def unmoved (checkpoint field expected observed : String) : Except SourceDriftError Unit :=
  require (expected = observed) ⟨checkpoint, field, expected, observed⟩

def assertNoSourceDrift (checkpoint : String) (analysed observed : SourceChangeEnvelope) :
    Except SourceDriftError Unit := do
  unmoved checkpoint "repository" analysed.repository observed.repository
  unmoved checkpoint "prNumber" (toString analysed.prNumber) (toString observed.prNumber)
  unmoved checkpoint "baseSha" analysed.baseSha observed.baseSha
  unmoved checkpoint "headSha" analysed.headSha observed.headSha
  unmoved checkpoint "selectedPath" analysed.selectedPath observed.selectedPath
  require (analysed.patch = observed.patch) ⟨checkpoint, "patchSha256",
    analysed.patch.getD "absent", observed.patch.getD "absent"⟩
  unmoved checkpoint "sourceFingerprint" analysed.sourceFingerprint observed.sourceFingerprint

/-- The observed source is the analysed one. -/
structure SameSource (analysed observed : SourceChangeEnvelope) : Prop where
  repository : analysed.repository = observed.repository
  prNumber : analysed.prNumber = observed.prNumber
  baseSha : analysed.baseSha = observed.baseSha
  headSha : analysed.headSha = observed.headSha
  selectedPath : analysed.selectedPath = observed.selectedPath
  patch : analysed.patch = observed.patch
  sourceFingerprint : analysed.sourceFingerprint = observed.sourceFingerprint

theorem assertNoSourceDrift_ok {checkpoint : String} {analysed observed : SourceChangeEnvelope} :
    assertNoSourceDrift checkpoint analysed observed = .ok () ↔ SameSource analysed observed := by
  simp only [assertNoSourceDrift, unmoved, bind_ok, require_ok, exists_const]
  constructor
  · rintro ⟨repository, prNumber, baseSha, headSha, selectedPath, patch, sourceFingerprint⟩
    exact ⟨repository, Nat.repr_inj.mp prNumber, baseSha, headSha, selectedPath, patch,
      sourceFingerprint⟩
  · intro same
    exact ⟨same.repository, congrArg _ same.prNumber, same.baseSha, same.headSha,
      same.selectedPath, same.patch, same.sourceFingerprint⟩

end LineageGuard.Domain
