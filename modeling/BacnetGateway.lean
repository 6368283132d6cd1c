import BacnetGateway.Seam.ForeignBus
import BacnetGateway.Lib.Lists
import BacnetGateway.Lib.Ids
import BacnetGateway.Lib.History
import BacnetGateway.Lib.Tickets
import BacnetGateway.Lib.Rounding
import BacnetGateway.Lib.Memory
import BacnetGateway.Lib.Octets
import BacnetGateway.Lib.Rotation
import BacnetGateway.Lib.Decimal
import BacnetGateway.Lib.Construction
import BacnetGateway.Lib.Lexing
import BacnetGateway.Gateway.Slave
import BacnetGateway.Gateway.Callbacks
import BacnetGateway.Gateway.Service
import BacnetGateway.Gateway.Steps
import BacnetGateway.Gateway.Commands
import BacnetGateway.Gateway.OneSlave
import BacnetGateway.Gateway.Calls
import BacnetGateway.Gateway.Faults
import BacnetGateway.Gateway.Priorities
import BacnetGateway.Gateway.Landing
import BacnetGateway.Gateway.Modes
import BacnetGateway.Gateway.Announcements
import BacnetGateway.Gateway.Protocol
import BacnetGateway.Gateway.Confirmed
import BacnetGateway.Gateway.Retries
import BacnetGateway.Gateway.Encoding
import BacnetGateway.Gateway.Identity
import BacnetGateway.Simulation.Bus
import BacnetGateway.Simulation.Steps
import BacnetGateway.Simulation.Ownership
import BacnetGateway.Simulation.LifeCycle
import BacnetGateway.Simulation.Control
import BacnetGateway.Lines.Model
import BacnetGateway.Lines.Refine
import BacnetGateway.Lines.Turns
import BacnetGateway.Lines.Settled
import BacnetGateway.Lines.Timing
import BacnetGateway.Lines.Delivered
import BacnetGateway.Lines.History
import BacnetGateway.Lines.Alarms
import BacnetGateway.Lines.Reading
import BacnetGateway.Lines.Sensor
import BacnetGateway.Frames.Names
import BacnetGateway.Frames.Decoder
import BacnetGateway.Frames.Parser
import BacnetGateway.Frames.Summary
import BacnetGateway.Frames.Facts
import BacnetGateway.Frames.Truncation
import BacnetGateway.Frames.Encoder
import BacnetGateway.Frames.RoundTrip
import BacnetGateway.Transport.Ports
import BacnetGateway.Transport.Delivery
import BacnetGateway.Transport.Links
import BacnetGateway.Program.Loop
import BacnetGateway.Program.Arguments
import BacnetGateway.Program.SetUp
import BacnetGateway.Wiretest.Tags
import BacnetGateway.Wiretest.Values
import BacnetGateway.Wiretest.Apdus
import BacnetGateway.Wiretest.Frame
import BacnetGateway.Wiretest.Client
import BacnetGateway.Wiretest.Exchange
