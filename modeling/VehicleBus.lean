import VehicleBus.Main
import VehicleBus.Cli.Run
import VehicleBus.Config.Document
import VehicleBus.Proofs.Wire.Field
import VehicleBus.Proofs.Wire.Scalar
import VehicleBus.Proofs.Wire.Envelope
import VehicleBus.Proofs.Message
import VehicleBus.Proofs.Wire.Size
import VehicleBus.Proofs.Encoding
import VehicleBus.Proofs.Pipeline
import VehicleBus.Proofs.Stream
import VehicleBus.Proofs.Translator.Run
import VehicleBus.Proofs.Catalog
import VehicleBus.Proofs.Catalog.Admission
import VehicleBus.Proofs.Config.Check
import VehicleBus.Proofs.Signal.Channel
import VehicleBus.Proofs.Router.Table
import VehicleBus.Proofs.Translator.Setup
import VehicleBus.Proofs.Router.Cycle
import VehicleBus.Proofs.Router.Isolation
import VehicleBus.Proofs.Router.Call
import VehicleBus.Proofs.Router.Sound
import VehicleBus.Proofs.Translator.Isolation
import VehicleBus.Proofs.Translator.Lockstep
import VehicleBus.Proofs.Translator.Reach
import VehicleBus.Proofs.Translator.Delivery
import VehicleBus.Proofs.Binary.Rounding
import VehicleBus.Proofs.Binary.Value
import VehicleBus.Proofs.Sampling.Clock
import VehicleBus.Proofs.Translator.Spacing
import VehicleBus.Proofs.Router.Shift
import VehicleBus.Proofs.Translator.Shift
import VehicleBus.Proofs.Translator.Accounting
import VehicleBus.Proofs.Text.Digits
import VehicleBus.Proofs.Decimal.Layout
import VehicleBus.Proofs.Json.Reader
import VehicleBus.Proofs.Text.Utf8
import VehicleBus.Proofs.Json.Stream
import VehicleBus.Proofs.BlockWriter
import VehicleBus.Proofs.Cli.Lines
import VehicleBus.Proofs.Cli.Session
import VehicleBus.Proofs.Cli.Delivery
import VehicleBus.Proofs.Cli.Replay
import VehicleBus.Proofs.Translator.Built
import VehicleBus.Proofs.Text.Words
import VehicleBus.Proofs.Text.Integer
import VehicleBus.Proofs.Frame.Payload
import VehicleBus.Proofs.Frame.Line
import VehicleBus.Proofs.Frame.Spelling
import VehicleBus.Proofs.Decimal.Whole
import VehicleBus.Proofs.Json.Whole
import VehicleBus.Proofs.Config.Abridged
import VehicleBus.Proofs.Payload
import VehicleBus.Proofs.Sampling.Gate
import VehicleBus.Proofs.Translator.Effect
import VehicleBus.Proofs.Store
import VehicleBus.Proofs.Catalog.Forwarding
import VehicleBus.Proofs.Sampling.History
import VehicleBus.Proofs.Translator.History
import VehicleBus.Proofs.Sampling.Rate
import VehicleBus.Proofs.Wire.Retraction
import VehicleBus.Proofs.Translator.Warnings
import VehicleBus.Proofs.Translator.Stranded
