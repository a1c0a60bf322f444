import WebexHandler.Transition.Machine
import WebexHandler.Json
import WebexHandler.Node.Handler.Routing
import WebexHandler.Go.MercurySocket.Close
import WebexHandler.Go.KmsClient.Correlation
import WebexHandler.Python.MercurySocket.Tasks
import WebexHandler.Python.MercurySocket.Hang
import WebexHandler.Interaction.Obeys
import WebexHandler.Rust.KmsClient.Client
import WebexHandler.Interaction.Run
import WebexHandler.Rust.KmsClient.Mailbox
import WebexHandler.Rust.KmsClient.Agreement
import WebexHandler.Rust.Activity
import WebexHandler.Rust.DeviceManager
import WebexHandler.Interaction.Pool
import WebexHandler.Rust.Handler.Operations
import WebexHandler.Rust.Handler.Activities
import WebexHandler.Rust.Handler.Lifecycle
import WebexHandler.Rust.Handler.Environment
import WebexHandler.Rust.DeviceManager.Confinement
import WebexHandler.Rust.KmsClient.Confinement
import WebexHandler.Rust.Handler.Confinement
import WebexHandler.Rust.Handler.Replay
import WebexHandler.Interaction.Waiting
import WebexHandler.Rust.Handler.LockOrder
import WebexHandler.Rust.Handler.Deadlock
import WebexHandler.Rust.MercurySocket.Socket
import WebexHandler.Rust.MercurySocket.Tasks
import WebexHandler.Rust.MercurySocket.Loss
import WebexHandler.Rust.MercurySocket.Loops
import WebexHandler.Rust.MercurySocket.Isolation
import WebexHandler.Rust.MercurySocket.Finality
import WebexHandler.Rust.MercurySocket.FlapStorm
import WebexHandler.Rust.KmsClient.Breaker
import WebexHandler.Node.KmsClient.Calls
import WebexHandler.Rust.KmsClient.FailFast
import WebexHandler.Node.KmsClient.Breaker
import WebexHandler.Base64
import WebexHandler.PersonId
import WebexHandler.Go.Handler.SelfMessages
import WebexHandler.Python.Handler.SelfMessages
import WebexHandler.Node.Handler.SelfMessages
import WebexHandler.Rust.Handler.SelfMessages
import WebexHandler.FailsClosed
import WebexHandler.Rust.Handler.Surroundings
import WebexHandler.Rust.Handler.FailedConnect
import WebexHandler.Rust.DeviceManager.Ledger
import WebexHandler.Go.MercurySocket.Goroutines
import WebexHandler.Go.MercurySocket.Exclusion
import WebexHandler.Go.MercurySocket.Hang
import WebexHandler.Rust.KmsClient.Context
import WebexHandler.Rust.Handler.Health
import WebexHandler.Rust.Handler.Status
import WebexHandler.Rust.DeviceManager.Credentials
import WebexHandler.Rust.KmsClient.Credentials
import WebexHandler.Rust.KmsClient.Hygiene
import WebexHandler.Rust.Handler.Rotation
import WebexHandler.Rust.Handler.Overlap
import WebexHandler.ReplayWindow
import WebexHandler.Transition.FairLock
import WebexHandler.Node.KmsClient.Lock
import WebexHandler.Node.MercurySocket.Socket
import WebexHandler.Node.MercurySocket.Steps
import WebexHandler.Node.MercurySocket.Readiness
import WebexHandler.Node.MercurySocket.SingleReconnect
import WebexHandler.Python.MercurySocket.Calls
import WebexHandler.Python.MercurySocket.Ownership
import WebexHandler.Python.MercurySocket.Heartbeats
import WebexHandler.Python.MercurySocket.PongTimeouts
import WebexHandler.Python.MercurySocket.TextFrames
import WebexHandler.Go.KmsClient.Retrieval
import WebexHandler.Python.KmsClient.Retrieval
import WebexHandler.Go.KmsClient.Rules
import WebexHandler.Python.KmsClient.Rules
import WebexHandler.SameKey
import WebexHandler.Rust.KmsClient.Hearing
import WebexHandler.Rust.KmsClient.KeyCache
import WebexHandler.DomainNames
import WebexHandler.HostTests
import WebexHandler.Node.KmsClient.PendingRequests
import WebexHandler.Rust.AllowList
import WebexHandler.Rust.Jwe.Panics
import WebexHandler.Rust.Jwe.Grammar
import WebexHandler.Rust.Jwe.KeyAgreement
import WebexHandler.Rust.Jwe.Compact
import WebexHandler.Rust.Jwe.RoundTrip
import WebexHandler.Serde
import WebexHandler.Rust.Deserialize
import WebexHandler.Go.MercurySocket.Activities
import WebexHandler.Numbers
import WebexHandler.ActivityTolerance
import WebexHandler.Streams
import WebexHandler.Go.MercurySocket.Frames
import WebexHandler.Go.MercurySocket.Heartbeat
import WebexHandler.FrameStreams
import WebexHandler.Regex
import WebexHandler.MentionParsers
import WebexHandler.MentionAgreement
import WebexHandler.MentionExtraction
import WebexHandler.Rust.DecryptedFields
import WebexHandler.Rust.CardInputs
import WebexHandler.Rust.Deliveries
import WebexHandler.Interaction.History
import WebexHandler.Rust.DeviceManager.Registration
import WebexHandler.Rust.DeviceManager.Region
import WebexHandler.Rust.KmsClient.Retries
import WebexHandler.Rust.KmsClient.Expiry
import WebexHandler.Rust.KmsClient.Delays
import WebexHandler.Dict
import WebexHandler.FormUrlencoded
import WebexHandler.Python.Urllib
import WebexHandler.PreparedUrls
import WebexHandler.Rust.IdUtils
import WebexHandler.KeyDerivation
import WebexHandler.Rust.Jwe.ConcatKdf
import WebexHandler.Sec1
import WebexHandler.Rust.EcKeys
import WebexHandler.Rust.KmsClient.Batches
import WebexHandler.Interaction.Completion
import WebexHandler.KeyRetrieval.Methods
import WebexHandler.Go.KmsClient.Methods
import WebexHandler.Python.KmsClient.Methods
import WebexHandler.KeyRetrieval.RequestLock
import WebexHandler.KeyRetrieval.PendingRequests
import WebexHandler.KeyRetrieval.ClientState
import WebexHandler.KeyRetrieval.Destinations
import WebexHandler.Interaction.Lockstep
import WebexHandler.Interaction.Session
import WebexHandler.Registration.Protocol
import WebexHandler.Registration.Port
import WebexHandler.Registration.Discipline
import WebexHandler.Rust.DeviceManager.Readings
import WebexHandler.Go.DeviceManager
import WebexHandler.Go.DeviceManager.Readings
import WebexHandler.Registration.Untyped
import WebexHandler.Node.DeviceManager
import WebexHandler.Python.DeviceManager
import WebexHandler.Registration.Ports
import WebexHandler.Registration.Toolchains
import WebexHandler.Registration.Documents
import WebexHandler.Registration.Answers
import WebexHandler.Registration.Agreement
