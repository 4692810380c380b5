import Asylo.OffsetTranslator
import Asylo.OffsetTranslatorProofs
import Asylo.IdentityAclEvaluator
import Asylo.IdentityAclEvaluatorProofs
import Asylo.MultiBufferInputStream
import Asylo.MultiBufferInputStreamProofs
import Asylo.PosixFile
import Asylo.LittleEndian
import Asylo.AeadHandler
import Asylo.SecureStorage
import Asylo.SecureStorageProofs
import Asylo.Machine
import Asylo.Pthread
import Asylo.PthreadProofs
import Asylo.ExceptLemmas
import Asylo.SyscallMessage
import Asylo.SyscallMessageProofs
import Asylo.SyscallMessageWriterProofs
import Asylo.Message
import Asylo.CheckedLog
import Asylo.SgxBoundary
import Asylo.SgxBoundaryProofs
import Asylo.HostCalls
import Asylo.HostCallsProofs
import Asylo.Util
import Asylo.IntelEcdsaQuote
import Asylo.Tcb
import Asylo.TcbProofs
import Asylo.ByteContainerUtil
import Asylo.ListSplitOn
import Asylo.IoUtil
import Asylo.IoUtilProofs
import Asylo.OrderedMap
import Asylo.IoManagerPaths
import Asylo.IoManagerPathsProofs
import Asylo.IndexScan
import Asylo.IoManagerFds
import Asylo.IoManagerFdsProofs
import Asylo.CertificateUtil
import Asylo.CertificateUtilProofs
import Asylo.SgxIdentityUtil
import Asylo.DcapVerifier
import Asylo.DcapVerifierProofs
import Asylo.TrustedApplication
import Asylo.TrustedApplicationProofs
import Asylo.RecordStore
import Asylo.RecordStoreProofs
import Asylo.EnclaveAuthContext
import Asylo.EnclaveAuthContextProofs
import Asylo.IdealAead
import Asylo.LocalSecretSealer
import Asylo.LocalSecretSealerProofs
import Asylo.Fork
import Asylo.ForkProofs
import Asylo.EventFd
import Asylo.Transcript
import Asylo.TypeConversions
import Asylo.TypeConversionsProofs
import Asylo.CondVar
import Asylo.CondVarProofs
import Asylo.ElfReader
import Asylo.ElfReaderProofs
import Asylo.SerializerFunctions
import Asylo.SerializerFunctionsProofs
import Asylo.IoContextInotify
import Asylo.IoContextInotifyProofs
import Asylo.ListFold
import Asylo.IoManagerSelect
import Asylo.IoManagerSelectProofs
import Asylo.IoContextEpoll
import Asylo.IoContextEpollProofs
import Asylo.ThreadManager
import Asylo.ThreadManagerProofs
import Asylo.SwitchedHeap
import Asylo.Status
import Asylo.StatusProofs
import Asylo.TimeConversions
import Asylo.TimeConversionsProofs
import Asylo.ForkSnapshot
import Asylo.ForkSnapshotProofs
import Asylo.Asn1
import Asylo.Asn1Proofs
import Asylo.PckCertificateUtil
import Asylo.ListLookup
import Asylo.ReadOidAnySequenceProofs
import Asylo.PckCertificateUtilProofs
import Asylo.SgxIdentityMatch
import Asylo.SgxIdentityMatchProofs
import Asylo.AssocMap
import Asylo.EnclaveManager
import Asylo.EnclaveManagerProofs
import Asylo.Json
import Asylo.TcbInfo
import Asylo.TcbInfoFromJson
import Asylo.TcbInfoFromJsonProofs
import Asylo.EkepMessages
import Asylo.EkepHandshaker
import Asylo.ClientEkepHandshaker
import Asylo.ServerEkepHandshaker
import Asylo.EkepFrameProofs
import Asylo.EkepHandlerProofs
import Asylo.ClientEkepHandshakerProofs
import Asylo.ServerEkepHandshakerProofs
import Asylo.EkepSession
import Asylo.EkepHonestRun
import Asylo.EkepResultProofs
