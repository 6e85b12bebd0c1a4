import SpiEthernet.Operation.Recording
import SpiEthernet.Proofs.Chip.Frames
import SpiEthernet.Proofs.Computation
import SpiEthernet.Session.Run
import SpiEthernet.Proofs.Chip.History
import SpiEthernet.Proofs.Link.Transaction
import SpiEthernet.Proofs.Link.Transport
import SpiEthernet.Proofs.Link.Masking
import SpiEthernet.Proofs.Chip.Quiet
import SpiEthernet.Proofs.Link.Waiting
import SpiEthernet.Proofs.Interrupt.Drain
import SpiEthernet.Proofs.Link.Travel
import SpiEthernet.Proofs.Interrupt.Flags
import SpiEthernet.Proofs.Interrupt.Flow
import SpiEthernet.Proofs.Interrupt.Handler
import SpiEthernet.Proofs.Interrupt.Endurance
import SpiEthernet.Proofs.Receive.Travel
import SpiEthernet.Proofs.Interrupt.Ledger
import SpiEthernet.Proofs.Interrupt.Sharing
import SpiEthernet.Proofs.Interrupt.Conservation
import SpiEthernet.Proofs.Interrupt.Announcement
import SpiEthernet.Proofs.Interrupt.Cover
import SpiEthernet.Proofs.Operation.Device
import SpiEthernet.Proofs.Operation.Channel
import SpiEthernet.Proofs.Interrupt.Tracing
import SpiEthernet.Proofs.Operation.Masked
import SpiEthernet.Proofs.Interrupt.Attention
import SpiEthernet.Proofs.Interrupt.Requests
import SpiEthernet.Proofs.Session.Wakeup
import SpiEthernet.Proofs.Receive.Inlet
import SpiEthernet.Proofs.Receive.Pointer
import SpiEthernet.Proofs.Receive.Transfer
import SpiEthernet.Proofs.Receive.Stock
import SpiEthernet.Proofs.Receive.Fifo
import SpiEthernet.Proofs.Receive.Inbox
import SpiEthernet.Proofs.Receive.Opening
import SpiEthernet.Proofs.Receive.Stream
import SpiEthernet.Proofs.Receive.Passage
import SpiEthernet.Proofs.Interrupt.Silence
import SpiEthernet.Proofs.Receive.Ending
import SpiEthernet.Proofs.Send.Outlet
import SpiEthernet.Proofs.Send.Staging
import SpiEthernet.Proofs.Interrupt.Visits
import SpiEthernet.Proofs.Operation.Closing
import SpiEthernet.Proofs.Send.Travel
import SpiEthernet.Proofs.Send.Transmission
import SpiEthernet.Proofs.Send.Draft
import SpiEthernet.Proofs.Send.Datagram
import SpiEthernet.Proofs.Send.Segment
import SpiEthernet.Proofs.Rings.Pointers
import SpiEthernet.Proofs.Rings.Balance
import SpiEthernet.Proofs.Rings.Accounts
import SpiEthernet.Proofs.Rings.Upkeep
import SpiEthernet.Proofs.Rings.Runs
import SpiEthernet.Proofs.Send.Abandoned
import SpiEthernet.Proofs.Address
import SpiEthernet.Proofs.Dns.Grammar
import SpiEthernet.Proofs.Dns.Cursor
import SpiEthernet.Proofs.Dns.Truncation
import SpiEthernet.Proofs.Operation.Footprint
import SpiEthernet.Proofs.Operation.Tending
import SpiEthernet.Proofs.Send.Duplex
import SpiEthernet.Proofs.Dns.Borrowing
import SpiEthernet.Proofs.Dns.Encoding
import SpiEthernet.Proofs.Dns.Waiting
import SpiEthernet.Proofs.Dns.Polling
import SpiEthernet.Proofs.Dns.Resolving
import SpiEthernet.Proofs.Dns.Resolution
import SpiEthernet.Proofs.Dns.Deadline
import SpiEthernet.Proofs.Operation.Isolation
import SpiEthernet.Proofs.Likeness.Chips
import SpiEthernet.Proofs.Likeness.Runs
import SpiEthernet.Proofs.Likeness.Devices
import SpiEthernet.Proofs.Likeness.Operations
import SpiEthernet.Proofs.Likeness.Errands
import SpiEthernet.Proofs.Send.Completion
import SpiEthernet.Proofs.Receive.Settling
import SpiEthernet.Proofs.Send.Range
import SpiEthernet.Proofs.Send.Destination
import SpiEthernet.Proofs.Send.Refusal
import SpiEthernet.Proofs.Receive.Range
import SpiEthernet.Proofs.Link.Observing
import SpiEthernet.Proofs.Interrupt.Answering
import SpiEthernet.Proofs.Reset.Outcome
import SpiEthernet.Proofs.Reset.Oblivion
import SpiEthernet.Proofs.Interrupt.Progress
import SpiEthernet.Proofs.Interrupt.Emptying
import SpiEthernet.Proofs.Interrupt.Showing
import SpiEthernet.Proofs.Chip.Agenda
import SpiEthernet.Proofs.Operation.Dealing
import SpiEthernet.Proofs.Operation.Opening
import SpiEthernet.Proofs.Operation.Counter
import SpiEthernet.Proofs.Operation.Ports
import SpiEthernet.Proofs.Operation.Picking
