import Lldpad.Proofs.Lldp.Ending
import Lldpad.Proofs.Lldp.Separation
import Lldpad.Proofs.Qbg.Wraparound
import Lldpad.Proofs.Qbg.PortDown
import Lldpad.Proofs.Qbg.VdpRemoval
import Lldpad.Proofs.Dcbx.OperPg
import Lldpad.Proofs.Dcbx.RoundTrip
import Lldpad.Proofs.Shm.Calls
import Lldpad.Proofs.Qbg.Evb22Agreement
import Lldpad.Proofs.Qbg.EndReported
import Lldpad.Proofs.Qaz.Restart
import Lldpad.Proofs.Qaz.OneDialect
import Lldpad.Proofs.Qbg.EcpInside
import Lldpad.Proofs.Qbg.EvbFollows
import Lldpad.Proofs.Lldp.Mandatory
import Lldpad.Proofs.Lldp.ConfigStrings
import Lldpad.Proofs.Clif.Request
import Lldpad.Proofs.Clif.Reply
import Lldpad.Proofs.Qaz.InsideTlv
import Lldpad.Proofs.Qbg.ProfileStore
import Lldpad.Proofs.Qbg.Ecp22Fifo
import Lldpad.Proofs.Qbg.Wildcard
import Lldpad.Proofs.Qbg.RequestTable
import Lldpad.Proofs.Qbg.RequestExact
import Lldpad.Proofs.Qbg.PrintedBack
import Lldpad.Proofs.Qbg.PayloadRead
import Lldpad.Proofs.Qaz.TlvRoundTrip
import Lldpad.Proofs.Dcbx.RulesSound
import Lldpad.Proofs.Dcbx.AppEntries
import Lldpad.Proofs.Dcbx.InsideContainer
import Lldpad.Proofs.Dcbx.ContainerBuilt
import Lldpad.Proofs.Dcbx.ErrorFlags
import Lldpad.Proofs.Dcbx.AppProgrammed
import Lldpad.Proofs.Dcbx.AtomicPut
import Lldpad.Proofs.Clif.ParsedSafely
import Lldpad.Proofs.Qbg.EvbRx
import Lldpad.Proofs.Qbg.VdpCmds
import Lldpad.Proofs.Qbg.Vdpnl
import Lldpad.Proofs.Dcbx.HwPg
import Lldpad.Proofs.Dcbx.Rebalance
import Lldpad.Proofs.Clif.SetCmd
import Lldpad.Proofs.Clif.TlvDump
import Lldpad.Proofs.Eloop
