import Handover.Synthesis.CrdbNodes
import Handover.Synthesis.StatefulSet

/-!
# Target objects

An observation is turned into the files of the target. No object is read here, so the same
observation always gives the same files.
-/

namespace Handover

/-- The files of the target for a direction, which must lead away from the source. -/
def synthesize (direction : Direction) (o : ClusterObservation) (trust : TrustMap)
    (target : Target) : Outcome (List ManifestFile) :=
  if direction = .ofSource o.source then
    match direction with
    | .toCrdbNodes => CrdbNodes.files o trust target
    | .toStatefulSet => LegacyChart.files o trust target
  else .error (.validation (.wrongSource direction.title o.source.title))

end Handover
