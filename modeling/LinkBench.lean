import LinkBench.Container.Alf.Reader
import LinkBench.Main
import LinkBench.Tool.Scripted
import LinkBench.Proofs.Container.Alf.Layout
import LinkBench.Proofs.Container.Alf.BuilderRuns
import LinkBench.Proofs.Container.Alf.BuilderSteps
import LinkBench.Proofs.Container.Alf.Counting
import LinkBench.Proofs.Container.Alf.Canonical
import LinkBench.Proofs.Container.Alf.RoundTrip
import LinkBench.Proofs.Container.Alf.Plain
import LinkBench.Proofs.Container.Alf.Extension
import LinkBench.Proofs.Container.Alf.Dependence
import LinkBench.Proofs.Container.Alf.Bounds
import LinkBench.Proofs.Container.ByAddress
import LinkBench.Proofs.Container.Agreement
import LinkBench.Proofs.Container.Dol.Header
import LinkBench.Proofs.Container.Dol.Layout
import LinkBench.Proofs.Container.Dol.RoundTrip
import LinkBench.Proofs.Container.Dol.Scan
import LinkBench.Proofs.Launch.Lookup
import LinkBench.Proofs.TestCase.Frame
import LinkBench.Proofs.TestCase.Stale
import LinkBench.Proofs.TestCase.Order
import LinkBench.Proofs.TestCase.Clash
import LinkBench.Proofs.Suite.Acceptance
import LinkBench.Proofs.Suite.FirstFailure
import LinkBench.Proofs.Suite.Overwriting
import LinkBench.Proofs.Golden.Verdict
import LinkBench.Proofs.Tool.Naming
import LinkBench.Proofs.Tool.Judging
import LinkBench.Proofs.CommandLine.StaticBase
