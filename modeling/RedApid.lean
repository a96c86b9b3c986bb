import RedApid.String.Content
import RedApid.Brickd.Framing
import RedApid.Store.Reachability
import RedApid.Config.RoundTrip
import RedApid.Config.Integers
import RedApid.Scheduler.Streams
import RedApid.Scheduler.Triggers
import RedApid.Scheduler.Lifetimes
import RedApid.Scheduler.Finality
import RedApid.Scheduler.Shown
import RedApid.Scheduler.Purging
import RedApid.Scheduler.Waiting
import RedApid.Scheduler.Paths
import RedApid.Scheduler.Redirections
import RedApid.Cron.Delivery
import RedApid.Files.Registrations
import RedApid.Store.Releases
import RedApid.Store.Sequences
import RedApid.Store.Preparation
import RedApid.Store.Spawns
import RedApid.Store.Staleness
import RedApid.Store.Distinct
import RedApid.Cron.Entries
import RedApid.Files.Directory
import RedApid.Files.Opening
import RedApid.Process.Death
import RedApid.Files.Transfers
import RedApid.Process.Observers
import RedApid.Programs.Leftovers
import RedApid.Programs.OptionNames
import RedApid.Api.Safety
import RedApid.Network.Effects
import RedApid.Network.Sockets
import RedApid.Programs.Persistence
import RedApid.Api.Protection
