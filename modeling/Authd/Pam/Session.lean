import Mathlib.Data.String.Basic

/-!
# The broker session of the PAM module's program

The PAM module's bubbletea program asks authd's PAM service for a broker session
(`startBrokerSession`), for the UI layout of an authentication mode (`getLayout`), and
ends the session when it quits (`quit`, `endSession`). Each returns a command; the
model is the message the command returns when the runtime calls it, given what the
environment and authd answer.

`startBrokerSession` sends the broker the language of the user's environment: it reads
`LANG`, `LC_MESSAGES` and `LC_ALL` in that order and keeps the last one set, so that
`LC_ALL` overrides `LC_MESSAGES`, which overrides `LANG`.

These commands have no loop and no state of their own: what each returns is one of its
branches, and the module states no result about them.
-/

namespace Authd.Pam

/-- `strings.TrimSuffix`. -/
def trimSuffix (s suffix : String) : String :=
  if s.endsWith suffix then s.dropRight suffix.length else s

/-- `authd.SBRequest`: the broker, the user, and the language. -/
structure SBRequest where
  brokerId : String
  username : String
  lang : String
deriving DecidableEq, Repr

/-- What `SelectBroker` returns with no error: `GetSessionId()` and
`GetEncryptionKey()`, `""` when unset. -/
structure SBResponse where
  sessionId : String
  encryptionKey : String
deriving DecidableEq, Repr

/-- `authd.SAMRequest`: the session and the authentication mode. -/
structure SAMRequest where
  sessionId : String
  authenticationModeId : String
deriving DecidableEq, Repr

/-- The messages these commands return. A UI layout stands for the `*authd.UILayout` the
broker sent. -/
inductive Msg
  /-- `pamIgnore{}`: PAM returns `PAM_IGNORE`. -/
  | pamIgnore (msg : String)
  /-- `pamSystemError{msg}`: PAM returns `PAM_SYSTEM_ERROR`. -/
  | pamSystemError (msg : String)
  | sessionStarted (sessionID encryptionKey : String)
  | uiLayoutReceived (layout : String)
  | sessionEnded
  /-- `tea.QuitMsg`, the message of `tea.Quit`. -/
  | quit
deriving DecidableEq, Repr

/-- The language of the broker session, where `os.Getenv` returns `getenv`. -/
def brokerLang (getenv : String → String) : String :=
  let lang := ["LANG", "LC_MESSAGES", "LC_ALL"].foldl
    (fun lang e => if getenv e ≠ "" then getenv e else lang) "C"
  trimSuffix lang ".UTF-8"

/-- `startBrokerSession`, where `client.SelectBroker` answers `selectBroker`. -/
def startBrokerSession (getenv : String → String)
    (selectBroker : SBRequest → Except String SBResponse) (brokerID username : String) : Msg :=
  if brokerID = "local" then .pamIgnore "" else
  match selectBroker ⟨brokerID, username, brokerLang getenv⟩ with
  | .error err => .pamSystemError s!"can\x27t select broker: {err}"
  | .ok sbResp =>
    if sbResp.sessionId = "" then .pamSystemError "no session ID returned by broker"
    else if sbResp.encryptionKey = "" then .pamSystemError "no encryption key returned by broker"
    else .sessionStarted sbResp.sessionId sbResp.encryptionKey

/-- `getLayout`, where `client.SelectAuthenticationMode` answers
`selectAuthenticationMode`: its error, or the response's `UiLayoutInfo`, `none` when nil. -/
def getLayout (selectAuthenticationMode : SAMRequest → Except String (Option String))
    (sessionID authModeID : String) : Msg :=
  match selectAuthenticationMode ⟨sessionID, authModeID⟩ with
  | .error err => .pamSystemError s!"can\x27t select authentication mode: {err}"
  | .ok none => .pamSystemError "invalid empty UI Layout information from broker"
  | .ok (some layout) => .uiLayoutReceived layout

/-- `sessionInfo`: the session the program started. -/
structure SessionInfo where
  sessionID : String
  encryptionKey : String
deriving DecidableEq, Repr

/-- `endSession` for a session, where `client.EndSession` answers `endSessionResult`: a
failure only logs, and the command's message is nil. -/
def endSession (endSessionResult : String → Option String) (currentSession : SessionInfo) :
    Option Msg :=
  match endSessionResult currentSession.sessionID with
  | some _ => none
  | none => some .sessionEnded

/-- `quit`: the messages of its command, in the order `tea.Sequence` runs them, a nil one
dropped; with no session, `tea.Quit` alone. -/
def quit (endSessionResult : String → Option String) : Option SessionInfo → List Msg
  | none => [.quit]
  | some currentSession => (endSession endSessionResult currentSession).toList ++ [.quit]

end Authd.Pam
