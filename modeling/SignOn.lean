import SignOn.Holder.Program
import SignOn.Main
import SignOn.Provider.Remote
import SignOn.Upkeep
import SignOn.Proofs.Storage.Presence
import SignOn.Proofs.Deployment.Failure
import SignOn.Proofs.Gate.Landing
import SignOn.Proofs.Url.Rereading
import SignOn.Proofs.Gate.Advertised
import SignOn.Proofs.Deployment.Dependence
import SignOn.Proofs.Deployment.Connections
import SignOn.Proofs.Deployment.Separation
import SignOn.Proofs.Deployment.Forwarding
import SignOn.Proofs.Encoding.Form
import SignOn.Proofs.Deployment.Return
import SignOn.Proofs.Holder.Isolation
import SignOn.Proofs.Provider.Confinement
import SignOn.Proofs.Session.Expiry
import SignOn.Proofs.Deployment.SignOut
import SignOn.Proofs.Connection.History
import SignOn.Proofs.Storage.Foreign
import SignOn.Proofs.Storage.Written
import SignOn.Proofs.Gate.Decision
import SignOn.Proofs.Connection.Transparency
import SignOn.Proofs.Logout.Page
import SignOn.Proofs.Http.HeaderSafety
import SignOn.Proofs.Deployment.Wiring
import SignOn.Proofs.Session.Reclaim
import SignOn.Proofs.Cookie.Grammar
import SignOn.Proofs.Cookie.Inspection
import SignOn.Proofs.Storage.Format
import SignOn.Proofs.Provider.Answers
import SignOn.Proofs.Provider.Requests
import SignOn.Proofs.Provider.Replies
import SignOn.Proofs.Provider.Secrecy
import SignOn.Proofs.Config.Parameters
import SignOn.Proofs.OAuth.Pinning
import SignOn.Proofs.Startup.FirstFault
