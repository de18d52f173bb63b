import SidpClient.HaltDiscipline
import SidpClient.ResponseOrder
import SidpClient.WebSocketTransport
import SidpClient.LinkLatch
import SidpClient.SessionBoundaries
import SidpClient.DetachPaths
import SidpClient.ReferenceReads
import SidpClient.RunAllOrNothing
import SidpClient.LostTerminal
import SidpClient.StopGenerations
import SidpClient.StopAgreement
import SidpClient.CrcReference
import SidpClient.SlipGrammar
import SidpClient.RegisterGrammar
import SidpClient.StackWindow
import SidpClient.SinkRejection
import SidpClient.FlushOutcome
import SidpClient.ServedRequests
import SidpClient.StepOverIssue
import SidpClient.StepOverSpent
import SidpClient.HitAttribution
import SidpClient.QueueAccounts
import SidpClient.CdcDelivery
import SidpClient.FreshAttachment
import SidpClient.PeerHandlers
import SidpClient.LegibleHandlers
import SidpClient.PcRuns
import SidpClient.CdcLink
import SidpClient.WebSocketGrammar
import SidpClient.RunAdmission
