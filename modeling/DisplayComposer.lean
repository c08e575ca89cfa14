import DisplayComposer.Cache.Usage
import DisplayComposer.Hardware.Log
import DisplayComposer.Hardware.Scripted
import DisplayComposer.Main
import DisplayComposer.Server.Traffic
import DisplayComposer.Proofs.Cache.Recorded
import DisplayComposer.Proofs.Config.Saving
import DisplayComposer.Proofs.Engine.Backing
import DisplayComposer.Proofs.Engine.Coherence
import DisplayComposer.Proofs.Engine.Failures
import DisplayComposer.Proofs.Engine.Fences
import DisplayComposer.Proofs.Engine.Grouping
import DisplayComposer.Proofs.Engine.Incidents
import DisplayComposer.Proofs.Engine.Isolation
import DisplayComposer.Proofs.Engine.Outcome
import DisplayComposer.Proofs.Engine.Refresh
import DisplayComposer.Proofs.Engine.Refusal
import DisplayComposer.Proofs.Engine.Registry
import DisplayComposer.Proofs.Engine.StaticLayout
import DisplayComposer.Proofs.Hardware.Decision
import DisplayComposer.Proofs.Hardware.Footprint
import DisplayComposer.Proofs.Hardware.Recorded
import DisplayComposer.Proofs.Server.Session
import DisplayComposer.Proofs.Server.Traffic
import DisplayComposer.Proofs.Wire.Outline
import DisplayComposer.Proofs.Wire.Presentation
