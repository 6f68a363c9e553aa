import P4dra.Forro.Bijection
import P4dra.Forro.Cipher
import P4dra.Forro.Debug
import P4dra.Forro.KeyStreams
import P4dra.Forro.ProofState
import P4dra.Forro.Streaming
import P4dra.Library.Bytes
import P4dra.Library.Codec
import P4dra.Library.Decimal
import P4dra.Library.Hex
import P4dra.Library.MatchAction
import P4dra.Library.Memory
import P4dra.Library.ObjectStore
import P4dra.Library.Recirculation
import P4dra.Library.Registers
import P4dra.Library.Terminated
import P4dra.Library.Transition
import P4dra.Optee.Answers
import P4dra.Optee.CaptureBounds
import P4dra.Optee.Commands
import P4dra.Optee.Configurations
import P4dra.Optee.Handler
import P4dra.Optee.HexBuffers
import P4dra.Optee.HonestRun
import P4dra.Optee.Host
import P4dra.Optee.Interleaving
import P4dra.Optee.Objects
import P4dra.Optee.Proofs
import P4dra.Optee.Provisioning
import P4dra.Optee.Replies
import P4dra.Optee.Service
import P4dra.Optee.ShellCommands
import P4dra.Optee.Ta
import P4dra.Optee.Writes
import P4dra.Rede.Agreement
import P4dra.Rede.Audit
import P4dra.Rede.Campaign
import P4dra.Rede.Network
import P4dra.Rede.Rounds
import P4dra.Tna.Actions
import P4dra.Tna.DeviceFile
import P4dra.Tna.Finalization
import P4dra.Tna.ForroActions
import P4dra.Tna.Frames
import P4dra.Tna.Headers
import P4dra.Tna.InitialState
import P4dra.Tna.Injection
import P4dra.Tna.Isolation
import P4dra.Tna.KeyGlobals
import P4dra.Tna.Passes
import P4dra.Tna.Pipeline
import P4dra.Tna.Programa
import P4dra.Tna.Programming
import P4dra.Tna.QuarterRounds
import P4dra.Tna.Records
import P4dra.Tna.Refinement
import P4dra.Tna.RoundTrip
import P4dra.Tna.Runs
import P4dra.Tna.Secrecy
import P4dra.Tna.Setup
import P4dra.Tna.Soundness
import P4dra.Tna.Specification
import P4dra.Tna.Tables
import P4dra.Tna.Termination
import P4dra.Tna.Verification
import P4dra.Tna.WireFields
import P4dra.Tools.Addresses
import P4dra.Tools.ByteOrder
import P4dra.Tools.ConfigurationBinding
import P4dra.Tools.DebugTrace
import P4dra.Tools.ForroArgsDra
import P4dra.Tools.Forwarding
import P4dra.Tools.Hexstring
import P4dra.Tools.MalformedRecords
import P4dra.Tools.NetworkLog
import P4dra.Tools.OfflineCheck
import P4dra.Tools.Processes
import P4dra.Tools.ProofGeneration
import P4dra.Tools.ProofSender
import P4dra.Tools.Receive
import P4dra.Tools.RecordFile
import P4dra.Tools.RecordLookup
import P4dra.Tools.Send
import P4dra.Tools.Senders
import P4dra.Tools.VerificaRede
import P4dra.Tools.VerifierCapture
import P4dra.Tools.VerifierCorrectness
import P4dra.Tools.VerifierRuns
import P4dra.Tools.WireFrames
