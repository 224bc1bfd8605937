import IpmiRs.Ipmi
import IpmiRs.Chassis.BootOptionWrites
import IpmiRs.Hpm.PackageImage
import IpmiRs.Hpm.UpdateHistory
import IpmiRs.Dcmi.EntityPages
import IpmiRs.Device.LateAnswers
import IpmiRs.Fwum.BufferUnwinding
import IpmiRs.Ime.OneShot
import IpmiRs.Kontron.FruGuards
import IpmiRs.Kontron.SerialAgreement
import IpmiRs.Kontron.SerialWalk
import IpmiRs.Kontron.FruSequences
import IpmiRs.Library.HighWater
import IpmiRs.Library.Runs
import IpmiRs.Library.Script
import IpmiRs.Recorded
import IpmiRs.Rmcp.CipherSuiteIter
import IpmiRs.Rmcp.HandshakeDisclosure
import IpmiRs.Rmcp.ActivationAuthenticity
import IpmiRs.Rmcp.SolLedger
import IpmiRs.Rmcp.SolOutputKept
import IpmiRs.Rmcp.SolDelivery
import IpmiRs.Rmcp.IpmbDeferred
import IpmiRs.Rmcp.IpmbOrder
import IpmiRs.Rmcp.Md2Specification
import IpmiRs.Rmcp.PacketChecked
import IpmiRs.Rmcp.RecvBudget
import IpmiRs.Rmcp.SolCodec
import IpmiRs.Rmcp.SolOutput
import IpmiRs.Rmcp.TyanTsolLedger
import IpmiRs.Rmcp.V1Messages
import IpmiRs.Serial.Correlation
import IpmiRs.Serial.Resync
import IpmiRs.Storage.FruDiscovery
import IpmiRs.Storage.FruLossless
import IpmiRs.Storage.FruTransferred
import IpmiRs.Storage.SdrChunks
import IpmiRs.Storage.SdrPointers
import IpmiRs.Storage.SelPoller
import IpmiRs.Storage.SelCompleteness
import IpmiRs.Storage.SensorLayout
import IpmiRs.Storage.RecordParsing
import IpmiRs.Sun.CliRuns
import IpmiRs.Sun.File
import IpmiRs.Sun.KeyUpload
import IpmiRs.Transport.Duid
import IpmiRs.GuardedWrites
