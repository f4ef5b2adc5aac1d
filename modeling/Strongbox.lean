import Strongbox.Main
import Strongbox.Proofs.Command.Contract
import Strongbox.Proofs.Command.Masking
import Strongbox.Proofs.Command.Session
import Strongbox.Proofs.Native.Agreement
import Strongbox.Proofs.NativeKey.Rendering
import Strongbox.Proofs.Provider.Containment
import Strongbox.Proofs.Provider.Locks
import Strongbox.Proofs.Provider.Must
import Strongbox.Proofs.SecretStore.History
import Strongbox.Proofs.SecretStore.Reports
import Strongbox.Proofs.Settings.Survival
import Strongbox.Proofs.Xml.Acceptance
import Strongbox.Proofs.Xml.Continuation
import Strongbox.Proofs.Xml.Projection
import Strongbox.Proofs.Provider.Promise
import Strongbox.Proofs.Xml.Truncation
import Strongbox.Proofs.FileStore.Privacy
import Strongbox.Proofs.Secret.Acceptance
import Strongbox.Proofs.Secret.Truncation
import Strongbox.Proofs.SecretStore.Silence
import Strongbox.Proofs.Command.Finding
import Strongbox.Proofs.FileStore.Order
import Strongbox.Proofs.FileStore.Rewriting
import Strongbox.Proofs.Provider.Detection
import Strongbox.Proofs.Command.Verbosity
import Strongbox.Proofs.Command.Initialising
import Strongbox.Proofs.SecretStore.Deeds
import Strongbox.Proofs.Secret.Crossing
import Strongbox.Proofs.Secret.Canonical
import Strongbox.Proofs.Xml.Name
import Strongbox.Proofs.Xml.Draft
import Strongbox.Proofs.Secret.Case
import Strongbox.Proofs.Command.Quiet
import Strongbox.Proofs.SecretStore.Provenance
import Strongbox.Proofs.Secret.TokenType
