import Pvxs.Calendar
import Pvxs.StatusDate
import Pvxs.CertStatus
import Pvxs.Ocsp
import Pvxs.StatusUri
import Pvxs.PeerStatus
import Pvxs.TlsSetup
import Pvxs.Credentials
import Pvxs.CertTool
import Pvxs.Subscription
import Pvxs.Stapling
import Pvxs.Wire
import Pvxs.Framing
import Pvxs.Grammar
import Pvxs.Channels
import Pvxs.Conn
import Pvxs.Handshake
import Pvxs.StdString
import Pvxs.TokenServer
import Pvxs.CertFiles
