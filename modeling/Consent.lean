import Consent.Main
import Consent.Proofs.Session.Polling
import Consent.Proofs.Session.Supersession
import Consent.Proofs.Observer.Phases
import Consent.Proofs.Observer.Crossing
import Consent.Proofs.Observer.Delivery
import Consent.Proofs.Observer.Host
import Consent.Proofs.Session.Effects
import Consent.Proofs.Session.Forwarding
import Consent.Proofs.Session.Moves
import Consent.Proofs.Session.Ownership
import Consent.Proofs.Session.History
import Consent.Proofs.Session.Requests
import Consent.Proofs.Session.Failure
import Consent.Proofs.Session.Provenance
import Consent.Proofs.Record.RoundTrip
import Consent.Proofs.Record.Bodies
import Consent.Proofs.Server.Sync
import Consent.Proofs.Http.Responses
import Consent.Proofs.Http.Snippets
import Consent.Proofs.Url.Server
import Consent.Proofs.Observer.Binding
import Consent.Proofs.Observer.Watching
import Consent.Proofs.Session.Attachment
import Consent.Proofs.Expiry.Accepted
import Consent.Proofs.Program.Operations
import Consent.Proofs.Expiry.Instants
import Consent.Proofs.Record.Extension
import Consent.Proofs.Config.Layers
import Consent.Proofs.Console.Records
import Consent.Proofs.Console.Memory
import Consent.Proofs.Session.Hosting
import Consent.Proofs.Session.Drafts
