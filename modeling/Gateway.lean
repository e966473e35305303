import Gateway.Text.Lowercase
import Gateway.Text.Quoted
import Gateway.Text.Percent
import Gateway.Text.Decimal
import Gateway.Mount
import Gateway.MediaType
import Gateway.Volume
import Gateway.Front
import Gateway.Script
import Gateway.Builtin
import Gateway.Transcript
import Gateway.Http.Field
import Gateway.Http.Response
import Gateway.Http.Target
import Gateway.Http.Request
import Gateway.Address
import Gateway.AccessRecord
import Gateway.Settings.Store
import Gateway.Toml.Document
import Gateway.Toml.Reader
import Gateway.Settings.Error
import Gateway.Settings.Section
import Gateway.Settings.Basic
import Gateway.Settings.Layers
import Gateway.Application
import Gateway.Exchange.Produced
import Gateway.Exchange.Arrival
import Gateway.Exchange.Host
import Gateway.Lifespan
import Gateway.CommandLine
import Gateway.LogFilter
import Gateway.Launch
import Gateway.Connections
import Gateway.Http.Receiver
import Gateway.Http.Wire
import Gateway.Main
import Gateway.Proofs.Walk
import Gateway.Proofs.Containment
import Gateway.Proofs.Runs
import Gateway.Proofs.Serving
import Gateway.Proofs.Transparency
import Gateway.Proofs.Decoding
import Gateway.Proofs.Stripping
import Gateway.Proofs.Collecting
import Gateway.Proofs.Scripts
import Gateway.Proofs.Interleaving
import Gateway.Proofs.Schedule
import Gateway.Proofs.Mounting
import Gateway.Proofs.Failures
import Gateway.Proofs.RawPath
import Gateway.Proofs.Agreement
import Gateway.Proofs.JsonReading
import Gateway.Proofs.Echoing
import Gateway.Proofs.Grammar
import Gateway.Proofs.Answering
import Gateway.Proofs.Receiving
import Gateway.Proofs.Opening
import Gateway.Proofs.Handshake
import Gateway.Proofs.Framing
import Gateway.Proofs.Collapsing
import Gateway.Proofs.Descent
import Gateway.Proofs.Spelling
import Gateway.Proofs.Counting
import Gateway.Proofs.Carrying
import Gateway.Proofs.Delivery
import Gateway.Proofs.HangingUp
import Gateway.Proofs.Storing
import Gateway.Proofs.Sections
import Gateway.Proofs.Layering
import Gateway.Proofs.Naming
import Gateway.Proofs.Headers
import Gateway.Proofs.Expanding
import Gateway.Proofs.JsonGrammar
import Gateway.Proofs.Variables
import Gateway.Proofs.Unmounting
import Gateway.Proofs.Trimming
import Gateway.Proofs.Loading
import Gateway.Proofs.Detection
import Gateway.Proofs.Nesting
import Gateway.Proofs.Addressing
import Gateway.Proofs.Building
import Gateway.Proofs.Settling
import Gateway.Proofs.Attributing
import Gateway.Proofs.AddressReading
import Gateway.Proofs.Binding
import Gateway.Proofs.Starting
import Gateway.Proofs.Normalizing
