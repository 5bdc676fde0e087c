import IcmpEcho.Main
import IcmpEcho.Session
import IcmpEcho.Proofs.Aside
import IcmpEcho.Proofs.Ports
import IcmpEcho.Proofs.Receives
import IcmpEcho.Proofs.Ledger
import IcmpEcho.Proofs.Accounting
import IcmpEcho.Proofs.Alarms
import IcmpEcho.Proofs.Sound
import IcmpEcho.Proofs.Lifetime
import IcmpEcho.Proofs.Act
import IcmpEcho.Proofs.PingerActs
import IcmpEcho.Proofs.HubActs
import IcmpEcho.Proofs.Performing
import IcmpEcho.Proofs.Growing
import IcmpEcho.Proofs.Opening
import IcmpEcho.Proofs.Releasing
import IcmpEcho.Proofs.Runs
import IcmpEcho.Proofs.HubLoop
import IcmpEcho.Proofs.Matching
import IcmpEcho.Proofs.Endings
import IcmpEcho.Proofs.Handling
import IcmpEcho.Proofs.Registrations
import IcmpEcho.Proofs.RateCeiling
import IcmpEcho.Proofs.Blocking
import IcmpEcho.Proofs.Watching
import IcmpEcho.Proofs.LateEvents
import IcmpEcho.Proofs.RoundTrips
import IcmpEcho.Proofs.Inward
import IcmpEcho.Proofs.Outside
import IcmpEcho.Proofs.Listening
import IcmpEcho.Proofs.Conveying
import IcmpEcho.Proofs.RawReceives
import IcmpEcho.Proofs.SocketLife
import IcmpEcho.Proofs.Burden
import IcmpEcho.Proofs.Closing
import IcmpEcho.Proofs.Enrolling
import IcmpEcho.Proofs.Muting
import IcmpEcho.Proofs.Numbers
import IcmpEcho.Proofs.Draining
import IcmpEcho.Proofs.SocketDeath
import IcmpEcho.Proofs.ServiceAccounts
import IcmpEcho.Proofs.MailboxRuns
import IcmpEcho.Proofs.Custody
import IcmpEcho.Proofs.OnesComplement
import IcmpEcho.Proofs.Framing
import IcmpEcho.Proofs.Grammar
import IcmpEcho.Proofs.Corruption
import IcmpEcho.Proofs.Stamping
import IcmpEcho.Proofs.Owing
import IcmpEcho.Proofs.Sleeping
import IcmpEcho.Proofs.Populating
import IcmpEcho.Proofs.Narrowing
import IcmpEcho.Proofs.Losses
import IcmpEcho.Proofs.Unanswered
import IcmpEcho.Proofs.Ebbing
import IcmpEcho.Proofs.Equipping
import IcmpEcho.Proofs.Lulls
import IcmpEcho.Proofs.Pacing
import IcmpEcho.Proofs.Ticking
import IcmpEcho.Proofs.Wraparound
