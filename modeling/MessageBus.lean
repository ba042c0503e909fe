import MessageBus.Amqp.Method.Json
import MessageBus.Bus.Session
import MessageBus.Consumer.Bench
import MessageBus.Consumer.Settings.Json
import MessageBus.Producer.Settings.Json
import MessageBus.Proofs.Consumer.Drain
import MessageBus.Proofs.Consumer.Handling
import MessageBus.Proofs.Consumer.Settlement
import MessageBus.Proofs.Consumer.Stop
import MessageBus.Scene.Report
import MessageBus.Settings.Environment
import MessageBus.Settings.Json
import MessageBus.Proofs.Consumer.Steps
import MessageBus.Proofs.Consumer.Dialogue
import MessageBus.Proofs.Consumer.Watch
import MessageBus.Proofs.Consumer.Setup
import MessageBus.Proofs.Consumer.Release
import MessageBus.Proofs.Consumer.Stages
import MessageBus.Proofs.Consumer.Agreement
import MessageBus.Proofs.Consumer.Reconnect
import MessageBus.Proofs.Connection.Steps
import MessageBus.Proofs.Connection.Closing
import MessageBus.Proofs.Connection.Following
import MessageBus.Proofs.Connection.Transcript
import MessageBus.Proofs.Connection.Redialing
import MessageBus.Proofs.Handler.Passage
import MessageBus.Proofs.Handler.Program
import MessageBus.Proofs.Retry.Attempts
import MessageBus.Proofs.Task.Deadline
import MessageBus.Proofs.Handler.Pipeline
import MessageBus.Proofs.Consumer.Noise
import MessageBus.Proofs.Producer.Envelope
import MessageBus.Proofs.Tracing.Continuity
import MessageBus.Proofs.Producer.Cache
import MessageBus.Proofs.Topology.Meeting
import MessageBus.Proofs.Consumer.Oversight
import MessageBus.Proofs.Retry.Schedule
import MessageBus.Proofs.Message.Codec
import MessageBus.Proofs.Bus.Connecting
import MessageBus.Proofs.Consumer.Chain
import MessageBus.Proofs.Producer.Publish
import MessageBus.Proofs.Consumer.CatchUp
import MessageBus.Proofs.Text.SnakeCase
import MessageBus.Proofs.Settings.Address
import MessageBus.Proofs.Settings.Environment
import MessageBus.Proofs.Bus.Calls
import MessageBus.Proofs.Retry.Backoff
import MessageBus.Proofs.Topology.Description
import MessageBus.Proofs.Consumer.Capacity
