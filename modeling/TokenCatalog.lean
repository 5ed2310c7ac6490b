import TokenCatalog.Http.Client
import TokenCatalog.Proofs.Engine.FirstCheck
import TokenCatalog.Proofs.Engine.ForcedRefresh
import TokenCatalog.Proofs.Engine.Interval
import TokenCatalog.Proofs.Engine.ManifestCache
import TokenCatalog.Proofs.Engine.Messages
import TokenCatalog.Proofs.Engine.Resolution
import TokenCatalog.Proofs.Engine.Retention
import TokenCatalog.Proofs.Engine.Wakeup
import TokenCatalog.Proofs.ListFormat.Contents
import TokenCatalog.Proofs.RoundTrip
import TokenCatalog.Proofs.Settings
import TokenCatalog.Proofs.Snapshot.Custom
import TokenCatalog.Proofs.Snapshot.Queries
import TokenCatalog.Proofs.Snapshot.Restriction
import TokenCatalog.Proofs.Token.Key
import TokenCatalog.Simulation.Script
