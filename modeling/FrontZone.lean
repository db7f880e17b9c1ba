import FrontZone.Main
import FrontZone.Wire.Handler
import FrontZone.Wire.Reading
import FrontZone.Proofs.Drive
import FrontZone.Proofs.Governor.Cycle
import FrontZone.Proofs.History
import FrontZone.Proofs.Motion
import FrontZone.Proofs.Governor.SafeOutput
import FrontZone.Proofs.Governor.Detection
import FrontZone.Proofs.Governor.DisableLines
import FrontZone.Proofs.Governor.Crossing
import FrontZone.Proofs.Governor.CutoffSchedule
import FrontZone.Proofs.Diagnostics
import FrontZone.Proofs.Governor.TroubleCodes
import FrontZone.Proofs.Governor.Tracking
import FrontZone.Proofs.Governor.EpisodeStatus
import FrontZone.Proofs.Governor.Transparency
import FrontZone.Proofs.Zone.Run
import FrontZone.Proofs.Zone.FaultMask
import FrontZone.Proofs.Zone.Independence
import FrontZone.Proofs.Servo
import FrontZone.Proofs.DriverModel
import FrontZone.Proofs.DriverModel.Steering
import FrontZone.Proofs.DriverModel.Freshness
import FrontZone.Proofs.Simulation.Run
import FrontZone.Proofs.Simulation.TroubleCodes
import FrontZone.Proofs.Governor.QuietCycle
import FrontZone.Proofs.Simulation.SteeringLoop
import FrontZone.Proofs.Simulation.NominalRun
import FrontZone.Proofs.Schedule.Delivery
import FrontZone.Proofs.Governor.RampCycle
import FrontZone.Proofs.Simulation.HeldLoop
import FrontZone.Proofs.Simulation.ReturnRamp
import FrontZone.Proofs.Simulation.Scenarios
import FrontZone.Proofs.Simulation.SensorFaults
import FrontZone.Proofs.Machine.ControlPath
import FrontZone.Proofs.Json.RoundTrip
import FrontZone.Proofs.Json.Size
import FrontZone.Proofs.Wire.Command
import FrontZone.Proofs.Wire.Calibration
import FrontZone.Proofs.Simulation.MessageSize
import FrontZone.Proofs.Diagnostics.Summary
import FrontZone.Proofs.Telemetry
import FrontZone.Proofs.Json.Value
import FrontZone.Proofs.Wire.Value
import FrontZone.Proofs.Simulation.Replies
import FrontZone.Proofs.Simulation.CommandQueue
import FrontZone.Proofs.Simulation.Definedness
import FrontZone.Proofs.Session
import FrontZone.Proofs.Client.Exchange
import FrontZone.Proofs.Rig
import FrontZone.Proofs.Injector
import FrontZone.Proofs.Injector.Duration
import FrontZone.Proofs.Injector.Reading
import FrontZone.Proofs.Injector.Accounts
import FrontZone.Proofs.Governor.HeldCycle
import FrontZone.Proofs.Approach
import FrontZone.Proofs.Servo.Settling
import FrontZone.Proofs.Governor.Returning
import FrontZone.Proofs.Governor.LineWrites
import FrontZone.Proofs.Governor.Saturation
