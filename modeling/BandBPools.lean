import BandBPools.Transition.Run
import BandBPools.Transition.Refinement
import BandBPools.Transition.Simulation
import BandBPools.Transition.Ledger
import BandBPools.Stack.Founded
import BandBPools.Tables.Total
import BandBPools.Keychain.Items
import BandBPools.Archive.Keyed
import BandBPools.Bytes.PercentEscapes
import BandBPools.Credential.EmailAddress
import BandBPools.App.State
import BandBPools.App.Screens
import BandBPools.App.Machine
import BandBPools.App.Invariant
import BandBPools.App.Change
import BandBPools.App.Reach
import BandBPools.App.Presenting
import BandBPools.App.Logout
import BandBPools.App.MenuAccess
import BandBPools.App.Pushes
import BandBPools.App.Stranding
import BandBPools.App.StackGrowth
import BandBPools.App.Failure
import BandBPools.App.LoginMode
import BandBPools.App.Visit
import BandBPools.App.Requests
import BandBPools.Auth.Keychain
import BandBPools.Auth.User
import BandBPools.Auth.Session
import BandBPools.Auth.SignIn
import BandBPools.Device.Machine
import BandBPools.Device.Simulation
import BandBPools.Device.Session
import BandBPools.Device.MenuAccess
import BandBPools.Device.Persistence
import BandBPools.Facebook.TokenCache
import BandBPools.Facebook.LoginManager
import BandBPools.Facebook.LoginMoves
import BandBPools.Facebook.LoginHandlers
import BandBPools.Facebook.LoginChallenge
import BandBPools.Facebook.LoginToken
import BandBPools.Graph.Connection
import BandBPools.Graph.Moves
import BandBPools.Graph.Handlers
import BandBPools.Graph.Refresh
import BandBPools.Graph.TokenUser
