import EndpointStubs.CommandLine.Run
import EndpointStubs.Proofs.Source.Gathered

/-!
# What commands start with

A command loads its settings and, unless it only cleans, gathers a round. Both only read the tree.
Flags come last, so commands that name the same settings file come to the same settings before them,
or fail alike.

    c.settings env = do return (← baseSettings c.options.config env).withFlags c.options.flags
-/

namespace EndpointStubs

open Session (Reads)

namespace Command

def origins (c : Command) (config : Config) : Origins :=
  ⟨c.options.sources, c.options.manifests, config.rootPackage⟩

/-- What a command collects depends on the tree alone. -/
theorem reads_collect (c : Command) (config : Config) :
    Reads (c.collect config) fun t =>
      if c.options.sources.isEmpty && c.options.manifests.isEmpty then .error .nothingToScan
      else ((Source.inTurn (Origin.declarations t config.rootPackage)
        (c.origins config).all).map Round.ofDeclarations).mapError .collect := by
  unfold collect
  split
  · exact Session.reads_throw _
  · exact (Origins.reads_collect _).mapError _

end Command

end EndpointStubs
