import Dmx485.Interaction.Machine
import Dmx485.Interaction.Outline
import Dmx485.Interaction.Abstraction
import Dmx485.Interaction.Bounds
import Dmx485.Interaction.Entries
import Dmx485.Interaction.Erasure
import Dmx485.Interaction.Provenance
import Dmx485.Driver
import Dmx485.Object
import Dmx485.Code
import Dmx485.Thread
import Dmx485.Messages
import Dmx485.Rules
import Dmx485.System
import Dmx485.Session
import Dmx485.Handles
import Dmx485.Mailbox
import Dmx485.Requests
import Dmx485.Commands
import Dmx485.Turns
import Dmx485.Wire
import Dmx485.Recovery
import Dmx485.Lifecycle
import Dmx485.Boot
import Dmx485.Channels
import Dmx485.Exchange
import Dmx485.Ticks
import Dmx485.Packets
import Dmx485.Attempts
import Dmx485.Connecting
import Dmx485.Enumeration
import Dmx485.Menu
import Dmx485.Snapshots
import Dmx485.Dialogue
import Dmx485.Protocol
import Dmx485.Settling
import Dmx485.Persistence
import Dmx485.Streaming
import Dmx485.Outcomes
import Dmx485.Noninterference
import Dmx485.Selection
import Dmx485.Openings
