import Squitter.Conversion
import Squitter.Main
import Squitter.Proofs.Agenda
import Squitter.Proofs.Agreement
import Squitter.Proofs.Boundaries
import Squitter.Proofs.Bridges
import Squitter.Proofs.Ceilings
import Squitter.Proofs.Census.Run
import Squitter.Proofs.Chain
import Squitter.Proofs.Clocks.Elapsed
import Squitter.Proofs.Clocks.Headers
import Squitter.Proofs.Clocks.Order
import Squitter.Proofs.Clocks.Rates
import Squitter.Proofs.Clocks.Unknown
import Squitter.Proofs.Delays
import Squitter.Proofs.Detection
import Squitter.Proofs.Dispatch.Turn
import Squitter.Proofs.Drives.Run
import Squitter.Proofs.Endpoints.Addresses
import Squitter.Proofs.Exits.Run
import Squitter.Proofs.Fanout.Run
import Squitter.Proofs.Grammar.Frames
import Squitter.Proofs.Grammar.Lines
import Squitter.Proofs.Handshake
import Squitter.Proofs.HexText
import Squitter.Proofs.Hop.Fields
import Squitter.Proofs.Hop.Path
import Squitter.Proofs.Hop.Timestamps
import Squitter.Proofs.InPlace.Run
import Squitter.Proofs.Lines.Pieces
import Squitter.Proofs.Lookups.Run
import Squitter.Proofs.Peers.AllOrNone
import Squitter.Proofs.Receiving.LineEnds
import Squitter.Proofs.Reports.Shared
import Squitter.Proofs.Resending
import Squitter.Proofs.Signals
import Squitter.Proofs.Storage
import Squitter.Uuid.Masked
