import RustZap.Lib.HashMap
import RustZap.Lib.Grouped
import RustZap.Lib.Json
import RustZap.Lib.Text
import RustZap.Lib.Runs
import RustZap.Lib.Views
import RustZap.Models
import RustZap.Whatsapp
import RustZap.Media
import RustZap.State.Store
import RustZap.State.Phone
import RustZap.State.Events
import RustZap.State.Contacts
import RustZap.State.Resolve
import RustZap.State.Record
import RustZap.State.Dirty
import RustZap.State.Receipts
import RustZap.State.Send
import RustZap.State.Dispatch
import RustZap.State.Transcripts
import RustZap.State.InboundMedia
import RustZap.State.Enrichment
import RustZap.State.WhatsappEvents
import RustZap.State.Conversations
import RustZap.State.Changes
import RustZap.State.Operations
import RustZap.State.Snapshot
import RustZap.State.Maintenance
import RustZap.State.ContactReads
import RustZap.State.Retention
import RustZap.State.Lifecycle
import RustZap.State.Restart
import RustZap.State.Sides
import RustZap.State.Service
import RustZap.Delivery.Receipts
import RustZap.Delivery.Progress
import RustZap.Delivery.Identity
import RustZap.Delivery.Sends
import RustZap.Queue.Work
import RustZap.Queue.Resurface
import RustZap.Kafka.Consumer
import RustZap.Kafka.Workers
import RustZap.Kafka.Durability
import RustZap.Inbound.Redelivery
import RustZap.Consistency.Indexes
import RustZap.Consistency.Sequences
import RustZap.Queue.Leases
import RustZap.Queue.Acks
import RustZap.Queue.Cursors
import RustZap.Idempotency.Records
import RustZap.Idempotency.Sends
import RustZap.Tenants.Contacts
import RustZap.Tenants.Profiles
import RustZap.Tenants.Writes
import RustZap.Tenants.Chats
import RustZap.Persistence.Replays
import RustZap.Persistence.Placeholders
import RustZap.Persistence.Sanitized
import RustZap.Retention.Sections
import RustZap.Retention.Redaction
import RustZap.Retention.Failures
import RustZap.Idempotency.Removals
import RustZap.Tenants.Isolation
import RustZap.Routes.Media
import RustZap.Retention.SavedMedia
import RustZap.Routes.MediaBytes
import RustZap.Privacy.Reads
import RustZap.Privacy.Anonymize
import RustZap.Lib.Upserts
import RustZap.Database.Outbox
import RustZap.Database.Tables
import RustZap.Database.Projection
import RustZap.Database.Statements
import RustZap.Database.Forgotten
import RustZap.Database.Names
import RustZap.Database.Publishing
import RustZap.Database.Drainers
import RustZap.Database.Retries
import RustZap.Database.Leases
import RustZap.Kafka.Replay
import RustZap.Channels.Manager
import RustZap.Channels.Lifecycle
import RustZap.Channels.LoggedOut
import RustZap.Channels.Reconnect
import RustZap.References.PublicIds
import RustZap.References.Stability
import RustZap.Lib.Exclusive
import RustZap.Idempotency.Uploads
import RustZap.Secrets
import RustZap.State.Callbacks
import RustZap.State.Webhooks
import RustZap.Webhooks.Discipline
import RustZap.Webhooks.Independence
import RustZap.Webhooks.SigningSecrets
import RustZap.Transcription.Sections
import RustZap.Transcription.Kept
import RustZap.Lib.Files
import RustZap.Channels.Sessions
import RustZap.Lib.Pages
import RustZap.Paging.Messages
import RustZap.Lib.Decimal
import RustZap.Paging.Search
import RustZap.Lib.Ranking
import RustZap.Queue.Order
import RustZap.References.Opaque
import RustZap.Inbound.MediaParts
import RustZap.Channels.Connections
import RustZap.Inbound.OldMessages
import RustZap.Delivery.Settled
import RustZap.References.Aliases
import RustZap.Groups.Members
import RustZap.Lib.Setters
import RustZap.Conversations.Patches
import RustZap.Webhooks.Updates
import RustZap.Lib.Addresses
import RustZap.Webhooks.Addresses
import RustZap.Lib.JsonPaths
import RustZap.Kafka.Codec
import RustZap.Webhooks.Compact
import RustZap.Media.Keys
import RustZap.Routes.ObjectKeys
import RustZap.RateLimits.Limiter
import RustZap.RateLimits.Scopes
import RustZap.RateLimits.Isolation
import RustZap.Channels.Bootstrap
import RustZap.References.PhoneJids
import RustZap.Lib.Fallible
import RustZap.Persistence.Times
import RustZap.Persistence.MessageCodec
import RustZap.Retention.Arithmetic
import RustZap.Lib.Disk
import RustZap.Media.LocalStore
import RustZap.Lib.Broadcast
import RustZap.State.EventStream
import RustZap.Routes.Websocket
import RustZap.State.Dispatcher
import RustZap.Kafka.Topics
import RustZap.Kafka.Publisher
import RustZap.Lib.Replace
import RustZap.State.DevState
import RustZap.Channels.Supervisors
import RustZap.Lib.Watch
import RustZap.State.SnapshotWorker
import RustZap.Routes.UploadForm
import RustZap.Retention.Pass
import RustZap.Lib.Throttle
import RustZap.Profiles.Book
import RustZap.Profiles.Projection
import RustZap.Profiles.Looks
import RustZap.Profiles.Lookups
