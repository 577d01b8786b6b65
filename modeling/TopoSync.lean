import TopoSync.Main
import TopoSync.Store.Interruptible
import TopoSync.Store.Memory
import TopoSync.Store.Recorded
import TopoSync.Proofs.Delivery
import TopoSync.Proofs.Hub.Letters
import TopoSync.Proofs.Hub.Changes
import TopoSync.Proofs.Hub.Outcomes
import TopoSync.Proofs.Hub.Trails
import TopoSync.Proofs.Hub.Sweeps
import TopoSync.Proofs.Hub.Untouched
import TopoSync.Proofs.Acts
import TopoSync.Proofs.Deeds
import TopoSync.Proofs.Lifecycle
import TopoSync.Proofs.Hub.Hearing
import TopoSync.Proofs.Sights
import TopoSync.Proofs.Wire.Announcements
import TopoSync.Proofs.MapCopies
import TopoSync.Proofs.Hub.Rebuffering
import TopoSync.Proofs.NodeCopies
import TopoSync.Proofs.Wire.Cutting
import TopoSync.Proofs.Chunks
import TopoSync.Proofs.Locks
import TopoSync.Proofs.Holdings
import TopoSync.Proofs.Hub.Replies
import TopoSync.Proofs.Refusals
import TopoSync.Proofs.Hub.Recording
import TopoSync.Proofs.Hub.Showing
import TopoSync.Proofs.Parts
import TopoSync.Proofs.Placeholding
import TopoSync.Proofs.Hub.Leaving
import TopoSync.Proofs.Hub.Ending
import TopoSync.Proofs.Farewells
import TopoSync.Proofs.Hub.Mirroring
import TopoSync.Proofs.Episodes
import TopoSync.Proofs.Hub.Postings
import TopoSync.Proofs.Reaping
import TopoSync.Checked.Reader
import TopoSync.Checked.Frames
import TopoSync.Checked.Operations
import TopoSync.Checked.Engine
import TopoSync.Proofs.Unfailing
import TopoSync.Proofs.Wire.Grammar
import TopoSync.Proofs.Wire.Payloads
import TopoSync.Proofs.Wire.Polling
import TopoSync.Proofs.Numbers
import TopoSync.Proofs.PrimaryKeys
import TopoSync.Proofs.Numbering
import TopoSync.Proofs.Hub.Audience
import TopoSync.Proofs.Subscribers
import TopoSync.Proofs.Hub.Contents
import TopoSync.Proofs.Rows
import TopoSync.Proofs.Hub.Permanence
import TopoSync.Proofs.Disclosure
import TopoSync.Proofs.Counterparts
import TopoSync.Proofs.Hub.Matching
import TopoSync.Proofs.Backends
import TopoSync.Proofs.Hub.Scopes
import TopoSync.Proofs.Hub.Reach
import TopoSync.Proofs.Hub.Moving
import TopoSync.Proofs.Commuting
import TopoSync.Proofs.Hub.Entries
import TopoSync.Proofs.Reconciling
import TopoSync.Proofs.Reopening
import TopoSync.Proofs.Hub.Reordering
import TopoSync.Proofs.Visiting
import TopoSync.Proofs.Footprint
import TopoSync.Proofs.Streams
import TopoSync.Proofs.Hub.Rounds
import TopoSync.Proofs.FanOut
import TopoSync.Proofs.LockNews
import TopoSync.Proofs.Text.Pieces
import TopoSync.Proofs.Text.Cuts
import TopoSync.Proofs.Columns
import TopoSync.Proofs.Unmeasured
import TopoSync.Proofs.Transactions
import TopoSync.Proofs.Histories
import TopoSync.Proofs.MapStorage
import TopoSync.Proofs.NodeStorage
import TopoSync.Checked.Words
import TopoSync.Proofs.Attempts
import TopoSync.Proofs.Accounts
import TopoSync.Proofs.Wire.Getters
import TopoSync.Proofs.Wire.Discipline
import TopoSync.Proofs.Config.Addresses
import TopoSync.Proofs.Config.Tokens
import TopoSync.Proofs.Config.Saving
import TopoSync.Proofs.FreeNumbers
import TopoSync.Proofs.Wire.Heads
