import Lumiere.Base.Run
import Lumiere.Base.Register
import Lumiere.Base.DocumentStore
import Lumiere.Base.History
import Lumiere.Base.Split
import Lumiere.Platform.Foundation
import Lumiere.Platform.Regex
import Lumiere.Firestore.ResourcePath
import Lumiere.Firestore.Store
import Lumiere.Controllers.Film
import Lumiere.Controllers.Inversion
import Lumiere.Controllers.Profile
import Lumiere.Controllers.SignUp
import Lumiere.Controllers.Password
import Lumiere.Controllers.Tabs
import Lumiere.Controllers.Screen
import Lumiere.Controllers.Tables
import Lumiere.Accounts.Operation
import Lumiere.Accounts.Separation
import Lumiere.Library.Device
import Lumiere.Library.World
import Lumiere.Library.Document
import Lumiere.Library.RoundTrip
import Lumiere.Library.Sound
import Lumiere.Library.Fresh
import Lumiere.Library.Deletion
import Lumiere.Library.Editing
import Lumiere.Library.Commit
import Lumiere.Session.Session
import Lumiere.Session.Inversion
import Lumiere.Session.Requests
import Lumiere.Session.SignUp
import Lumiere.Session.AccountDeletion
import Lumiere.Session.LeftBehind
import Lumiere.Session.Photo
import Lumiere.Session.Selected
import Lumiere.Session.Swipe
import Lumiere.Session.UserDocument
import Lumiere.Session.LatestPhoto
import Lumiere.Session.Screens
import Lumiere.Session.Agreement
import Lumiere.Session.SignedIn
import Lumiere.Session.Listeners
import Lumiere.Client.LocalStoreRun
import Lumiere.Client.ViewSync
import Lumiere.Client.QueryListener
import Lumiere.Client.WatchSnapshot
import Lumiere.Client.WatchRequests
import Lumiere.Client.LimboInvariant
import Lumiere.Client.SyncEngine
import Lumiere.Client.SyncEngineInvariant
import Lumiere.Client.SyncEngineRun
import Lumiere.Client.RemoteStore
import Lumiere.Client.RemoteStoreCalls
import Lumiere.Client.SyncEngineCalls
import Lumiere.Client.WatchedClient
