import KaspaApp.Session.Approval
import KaspaApp.Session.HeaderAcceptance
import KaspaApp.Session.Completeness
import KaspaApp.Session.ChangeOutput
import KaspaApp.Amounts.Balance
import KaspaApp.Hashing.Binding
import KaspaApp.Addresses.Screens
import KaspaApp.Addresses.ShownScripts
import KaspaApp.Addresses.Writes
import KaspaApp.Wire.RoundTrips
import KaspaApp.Wire.SerializerBounds
import KaspaApp.Messages.Buffers
import KaspaApp.Messages.Destination
import KaspaApp.Messages.ShownMessages
import KaspaApp.Messages.TrailingBytes
import KaspaApp.Messages.Truncation
import KaspaApp.Keys.PathBuffers
import KaspaApp.Keys.Wiping
import KaspaApp.Session.SigningFailures
import KaspaApp.Session.RefusedCommands
import KaspaApp.Session.SigningPaths
import KaspaApp.Session.HonestSessions
import KaspaApp.Session.Interleavings
import KaspaApp.Session.Isolation
import KaspaApp.Session.OutputSlots
import KaspaApp.Session.Replies
import KaspaApp.Session.StatusWords
import KaspaApp.Blake2b.Compression
import KaspaApp.Blake2b.SignatureHashes
import KaspaApp.Addresses.Mistyped
import KaspaApp.Session.AnsweredCommands
import KaspaApp.Session.CollectedSignatures
import KaspaApp.Library.Bisimulation
import KaspaApp.Session.FrontEnds
