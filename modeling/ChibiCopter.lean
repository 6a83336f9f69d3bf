import ChibiCopter.Library.Buffer
import ChibiCopter.Library.Transducer
import ChibiCopter.Library.Interleaving
import ChibiCopter.Library.TrailingRun
import ChibiCopter.Library.CString
import ChibiCopter.Library.Scan
import ChibiCopter.Library.Positional
import ChibiCopter.Library.Overwrite
import ChibiCopter.Library.Cyclic
import ChibiCopter.Library.Clock
import ChibiCopter.Library.Newton
import ChibiCopter.Spektrum.Receiver
import ChibiCopter.Spektrum.Framing
import ChibiCopter.Spektrum.RoundTrip
import ChibiCopter.Spektrum.Alignment
import ChibiCopter.Spektrum.Preamble
import ChibiCopter.Spektrum.Deframing
import ChibiCopter.Spektrum.Representation
import ChibiCopter.Spektrum.Lock
import ChibiCopter.Flight.Motors
import ChibiCopter.Flight.MainLoop
import ChibiCopter.Flight.Throttle
import ChibiCopter.Flight.Schedule
import ChibiCopter.Flight.Timestamps
import ChibiCopter.Flight.Spacing
import ChibiCopter.Flight.Rates
import ChibiCopter.Flight.Store
import ChibiCopter.Comms.Link
import ChibiCopter.Comms.Telemetry
import ChibiCopter.Comms.Triangle
import ChibiCopter.Comms.Counters
import ChibiCopter.Comms.DropRate
import ChibiCopter.Gps.Parser
import ChibiCopter.Gps.Unbounded
import ChibiCopter.Gps.Fields
import ChibiCopter.Gps.Reader
import ChibiCopter.Gps.Sentence
import ChibiCopter.Gps.Dispatch
import ChibiCopter.Gps.Coordinate
import ChibiCopter.Gps.Position
import ChibiCopter.Gps.Outside
import ChibiCopter.Gps.Recognition
import ChibiCopter.Gps.Publication
import ChibiCopter.Gps.Resync
import ChibiCopter.Gps.Readings
import ChibiCopter.Gps.Repetition
import ChibiCopter.Gps.Commit
import ChibiCopter.Gps.FixStatus
import ChibiCopter.Gps.Agreement
import ChibiCopter.Gps.Surplus
import ChibiCopter.Gps.Overflow
import ChibiCopter.Gps.Accesses
import ChibiCopter.Gps.Encoding
import ChibiCopter.Gps.Session
import ChibiCopter.Utils.SquareRoot
import ChibiCopter.Utils.Accuracy
import ChibiCopter.Utils.Order
import ChibiCopter.Utils.Angles
import ChibiCopter.Firmware.VirtualTimers
import ChibiCopter.Firmware.Program
import ChibiCopter.Firmware.Steps
import ChibiCopter.Firmware.Isolation
import ChibiCopter.Firmware.Heartbeat
import ChibiCopter.Firmware.Status
import ChibiCopter.Firmware.Latency
import ChibiCopter.Firmware.Pattern
import ChibiCopter.Firmware.Refinement
import ChibiCopter.Firmware.Lamps
