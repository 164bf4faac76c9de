import EthPhy.ErrorTransparency
import EthPhy.CacheAgreement
import EthPhy.PlcaRecovery
import EthPhy.InitRecovery
import EthPhy.Noninterference
import EthPhy.HardwareReset
import EthPhy.Lan87xxMode
import EthPhy.Lan87xxInit
import EthPhy.Polling
import EthPhy.SoftReset
import EthPhy.Lan867xInit
import EthPhy.InitTrace
import EthPhy.Counting
import EthPhy.InitDecision
import EthPhy.ChipErrors
import EthPhy.PlcaFailure
import EthPhy.BmcrHelpers
import EthPhy.Observers
import EthPhy.Concurrency
import EthPhy.NodeSpec
import EthPhy.Lan87xxReset
import EthPhy.Segment
import EthPhy.Lan87xxBringUp
import EthPhy.NodeKnowledge
import EthPhy.Ownership
import EthPhy.LinkUp
import EthPhy.SegmentUp
import EthPhy.FlatRegisters
import EthPhy.Identification
import EthPhy.Permissions
