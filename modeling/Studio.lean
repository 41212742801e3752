import Studio.CoreLibrary
import Studio.Decimal.Read
import Studio.Device.Rigged
import Studio.Device.Silent
import Studio.Service
import Studio.Store.Rigged
import Studio.Store.Workspace
import Studio.Proofs.Bus.Register
import Studio.Proofs.Composing.Interleaving
import Studio.Proofs.Conductor.Agreement
import Studio.Proofs.Conductor.Changed
import Studio.Proofs.Conductor.Failures
import Studio.Proofs.Conductor.LastPosition
import Studio.Proofs.Conductor.Transport
import Studio.Proofs.Random.Choosing
import Studio.Proofs.Score.AllOrNothing
import Studio.Proofs.Score.Reimport
import Studio.Proofs.Score.Text
import Studio.Proofs.Service.Timing
import Studio.Proofs.Session.Conservation
import Studio.Proofs.Session.Wiring
import Studio.Proofs.Settings.Saving
import Studio.Proofs.Store.History
