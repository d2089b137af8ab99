import HealthWatch.Main
import HealthWatch.Registry.Cell
import HealthWatch.Proofs.RequestAnswered
import HealthWatch.Proofs.ReportIsolation
import HealthWatch.Proofs.FirstSuccess
import HealthWatch.Proofs.TickSchedule
import HealthWatch.Proofs.WholeMoves
import HealthWatch.Proofs.MetricsHistory
import HealthWatch.Proofs.MetricsConservation
import HealthWatch.Proofs.CallsUnderWay
import HealthWatch.Proofs.ToldEvents
import HealthWatch.Proofs.CloseOnce
import HealthWatch.Proofs.LoopInTime
import HealthWatch.Proofs.TickerStop
import HealthWatch.Proofs.StartupCourse
import HealthWatch.Proofs.DegradedStartup
import HealthWatch.Proofs.MetricsReachable
import HealthWatch.Proofs.ReportBody
import HealthWatch.Proofs.AcceptedRun
import HealthWatch.Proofs.Teardown
import HealthWatch.Proofs.RetryCourse
import HealthWatch.Proofs.ProbeRoom
import HealthWatch.Proofs.Observers
import HealthWatch.Proofs.AcceptedRanges
import HealthWatch.Proofs.CycleEffects
import HealthWatch.Proofs.TwoLanguages
import HealthWatch.Proofs.FaithfulExposition
import HealthWatch.Proofs.StoreDiagnostics
import HealthWatch.Proofs.RegistryHistory
import HealthWatch.Proofs.ErrorText
import HealthWatch.Proofs.UptimeText
