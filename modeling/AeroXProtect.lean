import AeroXProtect.Lib.Table
import AeroXProtect.Lib.Run
import AeroXProtect.Lib.Clock
import AeroXProtect.Lib.Drain
import AeroXProtect.Lib.Interleave
import AeroXProtect.Lib.Json
import AeroXProtect.Lib.Lock
import AeroXProtect.Lib.Script
import AeroXProtect.Camera
import AeroXProtect.Scheduler.Rebalance
import AeroXProtect.Scheduler.Placement
import AeroXProtect.Scheduler.Stability
import AeroXProtect.Detection.Ingest
import AeroXProtect.Detection.Epochs
import AeroXProtect.Agent.Poll
import AeroXProtect.Agent.Etag
import AeroXProtect.Encode.Offload
import AeroXProtect.Storage.Tables
import AeroXProtect.Storage.Retention
import AeroXProtect.Storage.Passes
import AeroXProtect.Storage.Lock
import AeroXProtect.Storage.Progress
import AeroXProtect.Storage.Headroom
import AeroXProtect.Event.Tables
import AeroXProtect.Event.Pipeline
import AeroXProtect.Event.StateMachine
import AeroXProtect.Event.Coverage
import AeroXProtect.Share.Link
import AeroXProtect.Share.Gate
import AeroXProtect.Share.Listed
import AeroXProtect.Share.Playable
import AeroXProtect.Share.ViewLimit
import AeroXProtect.Auth.User
import AeroXProtect.Auth.Token
import AeroXProtect.Auth.Ledger
import AeroXProtect.Auth.Session
import AeroXProtect.Auth.Revocation
import AeroXProtect.Auth.Rotation
import AeroXProtect.Auth.Reuse
import AeroXProtect.Migrate.Upgrade
import AeroXProtect.Migrate.Crash
import AeroXProtect.Update.Run
import AeroXProtect.Update.Archive
import AeroXProtect.Update.Rollback
import AeroXProtect.Update.Restart
import AeroXProtect.Monitor.Tables
import AeroXProtect.Auth.Scoped
import AeroXProtect.Auth.Kinds
import AeroXProtect.Auth.NodeToken
import AeroXProtect.Lib.OneShot
import AeroXProtect.Auth.OneTime
import AeroXProtect.Monitor.Pairing
import AeroXProtect.Monitor.Winner
import AeroXProtect.Monitor.Revoked
import AeroXProtect.Admin.Permission
import AeroXProtect.Admin.Users
import AeroXProtect.Admin.Grant
import AeroXProtect.Lib.Fanout
import AeroXProtect.External.Api
import AeroXProtect.External.Deliver
import AeroXProtect.External.Delegate
import AeroXProtect.External.Scope
import AeroXProtect.Storage.Policies
import AeroXProtect.Storage.Files
import AeroXProtect.Recorder.Desired
import AeroXProtect.Scheduler.NodePool
import AeroXProtect.Live.Talk
import AeroXProtect.Event.Subscription
import AeroXProtect.Automation.Webhook
import AeroXProtect.Automation.Outbox
import AeroXProtect.Lib.Cells
import AeroXProtect.Recorder.Supervisor
import AeroXProtect.Recorder.Picks
import AeroXProtect.Recorder.Isolation
import AeroXProtect.Recorder.Children
import AeroXProtect.Recorder.Discipline
import AeroXProtect.Storage.Capacity
import AeroXProtect.Recorder.Choice
import AeroXProtect.Lib.Worklist
import AeroXProtect.Lib.Interval
import AeroXProtect.Lib.Decoded
import AeroXProtect.Playback.Timeline
import AeroXProtect.Playback.Export
import AeroXProtect.Edge.Gaps
import AeroXProtect.Edge.Import
import AeroXProtect.Lib.Substitute
import AeroXProtect.Flow.Params
import AeroXProtect.Flow.Graph
import AeroXProtect.Flow.Run
import AeroXProtect.Flow.Template
import AeroXProtect.Flow.Cooldown
import AeroXProtect.Lib.Text
import AeroXProtect.Update.Ticket
import AeroXProtect.Launcher.Supervisor
import AeroXProtect.Camera.Rows
import AeroXProtect.Camera.Controller
import AeroXProtect.Camera.Atomic
import AeroXProtect.Camera.Published
import AeroXProtect.Event.Coalesce
import AeroXProtect.Event.VendorId
import AeroXProtect.Event.DedupKey
import AeroXProtect.Event.Weekly
import AeroXProtect.Lib.Batch
import AeroXProtect.Detection.Zones
import AeroXProtect.Detection.Reports
import AeroXProtect.Detection.Observations
import AeroXProtect.Lib.Calendar
import AeroXProtect.Lib.Range
import AeroXProtect.Util.Snowflake
import AeroXProtect.Util.Cron
import AeroXProtect.Lib.Address
import AeroXProtect.Util.Net
import AeroXProtect.Event.Resaved
import AeroXProtect.Detection.Counting
import AeroXProtect.Detection.Balance
import AeroXProtect.Detection.Loitering
import AeroXProtect.Detection.Buckets
import AeroXProtect.Auth.Lockout
import AeroXProtect.Lib.Greedy
import AeroXProtect.Agent.Tracker
import AeroXProtect.Agent.TrackKeys
import AeroXProtect.Playback.PointLookup
import AeroXProtect.Detection.Clips
import AeroXProtect.Event.AlertStream
import AeroXProtect.Event.StreamEnd
import AeroXProtect.Camera.Credentials
import AeroXProtect.Camera.CredentialEdits
import AeroXProtect.Agent.Reconcile
import AeroXProtect.Storage.Evacuate
import AeroXProtect.Storage.Sweep
import AeroXProtect.Storage.Archiver
import AeroXProtect.Event.Specificity
import AeroXProtect.Recorder.Dual
import AeroXProtect.Live.Ticket
import AeroXProtect.Detection.Plates
import AeroXProtect.Storage.Overcommit
import AeroXProtect.Monitor.Kiosk
import AeroXProtect.Update.Versions
import AeroXProtect.Share.RateLimits
import AeroXProtect.Federation.Sync
import AeroXProtect.Camera.Injection
import AeroXProtect.Detection.Polygons
import AeroXProtect.Agent.Zones
import AeroXProtect.Agent.Sampler
import AeroXProtect.Access.Badges
import AeroXProtect.Access.Relock
import AeroXProtect.Detection.Triggers
import AeroXProtect.Detection.Smoke
import AeroXProtect.Event.Sunapi
import AeroXProtect.Admin.Flags
import AeroXProtect.Recorder.Indexing
import AeroXProtect.Auth.Mirror
import AeroXProtect.Admin.Maps
import AeroXProtect.Camera.LiveRows
import AeroXProtect.Playback.Playlist
