import Telecontrol.ConnectionId
import Telecontrol.Proofs.Asdu.Accepted
import Telecontrol.Proofs.Asdu.Confirmation
import Telecontrol.Proofs.Asdu.Readable
import Telecontrol.Proofs.Asdu.Sendable
import Telecontrol.Proofs.Command
import Telecontrol.Proofs.Element.Laws
import Telecontrol.Proofs.Framer.Canonical
import Telecontrol.Proofs.Link.Accounts
import Telecontrol.Proofs.Link.Blocked
import Telecontrol.Proofs.Link.Changes
import Telecontrol.Proofs.Link.Classification
import Telecontrol.Proofs.Link.Deadlines
import Telecontrol.Proofs.Link.Exchanges
import Telecontrol.Proofs.Link.Idle
import Telecontrol.Proofs.Link.Registry
import Telecontrol.Proofs.Link.Requests
import Telecontrol.Proofs.Link.Stopped
import Telecontrol.Proofs.Mailbox
import Telecontrol.Proofs.Network.Rest
import Telecontrol.Proofs.Session
import Telecontrol.Proofs.Time.Resolution
import Telecontrol.Proofs.Window.Counting
