import Authd.Go.Sha256
import Authd.Go.Utf8
import Authd.Go.Unicode
import Authd.Go.Strconv
import Authd.Go.Json
import Authd.Users.GenerateID
import Authd.Users.Cache
import Authd.Users.Manager
import Authd.Users.Cleanup
import Authd.Gdm.Model
import Authd.Gdm.Authentication
import Authd.Gdm.Runtime
import Authd.Gdm.Access
import Authd.Gdm.Invariants
import Authd.Users.Service
import Authd.Pam.Session
