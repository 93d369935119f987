import BoxTrials.Foundation.Binary64
import BoxTrials.Foundation.BitFields
import BoxTrials.Foundation.HexText
import BoxTrials.Foundation.LastMatch
import BoxTrials.Foundation.MachineWords
import BoxTrials.Foundation.PeriodicSchedule
import BoxTrials.Foundation.PollLoop
import BoxTrials.Foundation.TapeReader
import BoxTrials.Libraries.ArduinoTimer
import BoxTrials.Libraries.AW9523
import BoxTrials.Libraries.BusIO
import BoxTrials.Libraries.RegisterFields
import BoxTrials.Libraries.MPU6050
import BoxTrials.Libraries.SensorSettings
import BoxTrials.Libraries.SensorStart
import BoxTrials.Libraries.TimerHandles
import BoxTrials.Libraries.TimerSchedule
import BoxTrials.Libraries.TimerTicks
import BoxTrials.Libraries.TimerLoad
import BoxTrials.Receiver.Packets
import BoxTrials.Receiver.PacketRoundTrip
import BoxTrials.Receiver.HexBuffers
import BoxTrials.Receiver.PacketGrammar
import BoxTrials.Receiver.Commands
import BoxTrials.Receiver.Configuration
import BoxTrials.Receiver.CommandReplies
import BoxTrials.Receiver.CommandAtomicity
import BoxTrials.Receiver.Device
import BoxTrials.Receiver.Steps
import BoxTrials.Receiver.Runs
import BoxTrials.Receiver.TrialStores
import BoxTrials.Receiver.SequenceReads
import BoxTrials.Receiver.TrialCounter
import BoxTrials.Receiver.TrialTargets
import BoxTrials.Receiver.StartConfiguration
import BoxTrials.Receiver.SampleStream
import BoxTrials.Receiver.SampleBudget
import BoxTrials.Receiver.ExperimentIsolation
import BoxTrials.Foundation.Eventually
import BoxTrials.Receiver.Experiments
import BoxTrials.Receiver.Completion
import BoxTrials.Receiver.Attribution
import BoxTrials.Receiver.SerialLine
import BoxTrials.Receiver.StopRequests
import BoxTrials.Receiver.SerialOutput
import BoxTrials.Receiver.Boards
import BoxTrials.Receiver.RadioPayloads
import BoxTrials.Receiver.Deliveries
import BoxTrials.Receiver.WaitLoop
import BoxTrials.Receiver.WaitOutcomes
import BoxTrials.Receiver.WaitClock
import BoxTrials.Receiver.WaitSteps
import BoxTrials.Receiver.PinMap
import BoxTrials.Receiver.ExpanderPins
import BoxTrials.Receiver.SystemSetup
import BoxTrials.Receiver.SetupRun
import BoxTrials.Receiver.Display
import BoxTrials.Receiver.DisplayProtocol
import BoxTrials.Receiver.PowerOn
import BoxTrials.Apparatus.TableReads
import BoxTrials.Apparatus.Movements
import BoxTrials.Apparatus.Sensors
import BoxTrials.Sender.Loop
import BoxTrials.Sender.Setup
import BoxTrials.Sender.Link
import BoxTrials.Sender.Network
import BoxTrials.Sender.Sensing
