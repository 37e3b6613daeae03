import NameService.Arena.Reading
import NameService.Config.Document
import NameService.Directory
import NameService.Proofs.Filter.Grammar
import NameService.Proofs.Filter.Narrowing
import NameService.Proofs.Engine.Endings
import NameService.Proofs.Session.Moves
import NameService.Proofs.Session.Conduct
import NameService.Proofs.Lookup.Conduct
import NameService.Proofs.Enumeration.Conduct
import NameService.Proofs.Membership.Conduct
import NameService.Proofs.Directory.Trace
import NameService.Proofs.Directory.Health
import NameService.Proofs.Directory.Inheritance
import NameService.Proofs.Session.Calm
import NameService.Proofs.Enumeration.Source
import NameService.Proofs.Enumeration.Delivery
import NameService.Proofs.Session.Success
import NameService.Proofs.Engine.Host
import NameService.Proofs.Enumeration.Values
import NameService.Proofs.Session.Lasting
import NameService.Proofs.Lookup.Asking
import NameService.Proofs.Failover.Schedule
import NameService.Proofs.Failover.Losses
import NameService.Proofs.Engine.Agreement
import NameService.Proofs.Lookup.Readings
import NameService.Proofs.Enumeration.Entries
import NameService.Proofs.Arena.Runs
import NameService.Proofs.Arena.Texts
import NameService.Proofs.Arena.Commands
import NameService.Proofs.Arena.Framing
import NameService.Proofs.Arena.Lists
import NameService.Proofs.Arena.Fitting
import NameService.Proofs.Membership.Exploring
import NameService.Proofs.Membership.Nesting
import NameService.Proofs.Membership.Recollection
import NameService.Proofs.Membership.Reading
import NameService.Proofs.Membership.Reachability
import NameService.Proofs.Membership.Agreement
import NameService.Proofs.Membership.History
import NameService.Proofs.Membership.Netgroups
import NameService.Proofs.Membership.Lasting
import NameService.Proofs.Membership.Chasing
import NameService.Proofs.Text.Trimming
import NameService.Proofs.DistinguishedName.Escapes
import NameService.Proofs.DistinguishedName.Printing
import NameService.Proofs.Membership.Limits
import NameService.Proofs.Membership.Truncation
import NameService.Proofs.Filter.Evaluation
import NameService.Proofs.Lookup.Contents
import NameService.Proofs.Membership.Gathering
import NameService.Proofs.Membership.Linked
import NameService.Proofs.Membership.Directions
import NameService.Proofs.Membership.Parts
import NameService.Proofs.Engine.Faults
import NameService.Proofs.Lookup.Faults
import NameService.Proofs.Enumeration.Faults
import NameService.Proofs.Directory.Statuses
import NameService.Proofs.Text.Traversal
import NameService.Proofs.Filter.Filling
import NameService.Proofs.Session.Deeds
import NameService.Proofs.Failover.Mending
import NameService.Proofs.Lookup.Chain
import NameService.Proofs.Enumeration.Deeds
import NameService.Proofs.Membership.Deeds
import NameService.Proofs.Directory.Ledger
import NameService.Proofs.Directory.Accounting
import NameService.Proofs.Directory.Parting
import NameService.Proofs.Directory.Chronicle
import NameService.Proofs.Directory.Framing
import NameService.Proofs.Directory.Severance
import NameService.Proofs.Membership.Visits
import NameService.Proofs.Enumeration.Ending
import NameService.Proofs.Membership.Ending
import NameService.Proofs.Membership.Slices
import NameService.Proofs.Membership.Ranges
import NameService.Proofs.Membership.Continuations
import NameService.Proofs.DistinguishedName.Identifiers
import NameService.Proofs.DistinguishedName.Spellings
import NameService.Proofs.Netgroup.Reading
import NameService.Proofs.Netgroup.Joining
import NameService.Proofs.Netgroup.Ending
import NameService.Proofs.Failover.Backoff
import NameService.Proofs.Enumeration.Retrying
import NameService.Proofs.Config.Storing
