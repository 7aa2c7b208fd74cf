import Mathlib.Data.List.Basic

/-!
# The GDM model of the PAM module

`gdmModel` talks to GDM through the PAM conversation: it polls GDM for events
and turns each into a message for the bubbletea program, and it emits events
to GDM for the messages the program sends it. `Update` has a value receiver,
and `pollGdm` a pointer one: when `Update` handles `gdmPollDone` it polls on
its own copy `m` and returns that copy, so the changes `pollGdm` makes to
`waitingAuth` are in the model `Update` returns (the Go compiler evaluates the
call `m.pollGdm()` before it reads `m` for the return).

A `tea.Cmd` is a closure; `Cmd` names the closures this file creates by what
they do when the runtime calls them. `emitEventSync`, `pollGdm` and
`protoHello` talk to GDM while `Update` or `Init` runs; `emitEvent`,
`requestUICapabilities` and `changeStage` only when their command runs.

Three functions `Update` calls live outside this file: the adapter's
`dataToMsg`, `strconv.Quote` and `json.Marshal` on a string. They are
parameters, `Helpers`, and every result below holds for all of them.
-/

namespace Authd.Gdm

/-- `proto.Stage`. -/
inductive Stage
  | brokerSelection
  | authModeSelection
  | challenge
deriving DecidableEq, Repr

/-- The PAM status a `pamError` carries. -/
inductive PamStatus
  | system
  | credUnavail
deriving DecidableEq, Repr

/-- The events GDM sends back to a poll; `none` is a nil message field. -/
inductive PollEvent
  | userSelected (userId : String)
  | brokerSelected (brokerId : Option String)
  | authModeSelected (authModeId : Option String)
  /-- `none`: `IsAuthenticatedRequested` is nil; `some none`: its
  `AuthenticationData` is. -/
  | isAuthenticatedRequested (item : Option (Option String))
  | reselectAuthMode
  | isAuthenticatedCancelled
  | stageChanged (stage : Option Stage)
  /-- An event `pollGdm` does not handle. -/
  | other
deriving DecidableEq, Repr

/-- The events `gdmModel` emits to GDM. -/
inductive Event
  | userSelected (userId : String)
  | brokersReceived (brokers : List String)
  | brokerSelected (brokerId : String)
  | authModesReceived (authModes : List String)
  | authModeSelected (authModeId : String)
  | uiLayoutReceived (layout : String)
  | startAuthentication
  | authEvent (access msg : List UInt8)
deriving DecidableEq, Repr

/-- The messages of the bubbletea program that `gdmModel` creates or handles. -/
inductive Msg
  | gdmPollDone
  | userSelected (username : String)
  | brokersListReceived (brokers : List String)
  | brokerSelected (brokerID : String)
  | authModesReceived (authModes : List String)
  | authModeSelected (id : String)
  | uiLayoutReceived (layout : String)
  | startAuthentication
  | isAuthenticatedResultReceived (access msg : List UInt8)
  | isAuthenticatedCancelled (msg : List UInt8)
  | isAuthenticatedRequested (item : String)
  | reselectAuthMode
  | changeStage (stage : Stage)
  | supportedUILayoutsReceived (layouts : List String)
  | pamError (status : PamStatus) (msg : String)
  /-- Any other message of the program. -/
  | other
deriving DecidableEq, Repr

/-- A conversation with GDM through the PAM module transaction. -/
inductive Conversation
  | hello
  | uiLayoutCapabilities
  | poll
  | emit (event : Event)
  | changeStage (stage : Stage)
deriving DecidableEq, Repr

/-- What a command does when the runtime calls it. -/
inductive Cmd
  /-- `sendEvent(msg)`; `none` is a nil message, which the runtime drops. -/
  | sendEvent (msg : Option Msg)
  /-- `emitEvent(event)`: `gdm.EmitEvent` when run. -/
  | emitEvent (event : Event)
  /-- `requestUICapabilities`: a `UiLayoutCapabilities` request when run. -/
  | requestUICapabilities
  /-- The closure of `changeStage`: a `ChangeStage` request when run. -/
  | changeStage (stage : Stage)
  /-- `tea.Tick(gdmPollFrequency, ...)`, whose message is nil. -/
  | tick
  | batch (cmds : List Cmd)
  | sequence (cmds : List Cmd)
deriving Repr

/-- Modelled from the spec: `selectAuthMode(id)`, the command that selects the auth
mode GDM chose. -/
def selectAuthMode (id : String) : Cmd := .sendEvent (some (.authModeSelected id))

/-- `gdmModel`. -/
structure GdmModel where
  waitingAuth : Bool
  conversationsStopped : Bool
deriving DecidableEq, Repr

/-- How GDM answers the conversations of one call: the events of a poll, or the
error of `gdm.SendPoll`; the error of `gdm.EmitEvent`, if any; the answer to a
`UiLayoutCapabilities` request, an error or the response, which may be nil; the
error of a `ChangeStage` request, if any. -/
structure Reply where
  poll : Except String (List PollEvent)
  emit : Option String
  uiLayoutCapabilities : Except String (Option (List String))
  changeStage : Option String

/-- The functions outside this file that `Update` calls. -/
structure Helpers where
  /-- `dataToMsg`: the message of a broker's JSON answer. -/
  dataToMsg : List UInt8 → Except String (List UInt8)
  /-- `strconv.Quote`. -/
  quote : List UInt8 → List UInt8
  /-- `json.Marshal` of a string. -/
  marshalString : List UInt8 → List UInt8

/-! ## `pollGdm` -/

/-- The loop of `pollGdm` over the events of one poll, `commands` collected so far. -/
def pollEvents (m : GdmModel) (commands : List Cmd) : List PollEvent → GdmModel × Cmd
  | [] => (m, .batch commands)
  | .userSelected userId :: rest =>
    pollEvents m (commands ++ [.sendEvent (some (.userSelected userId))]) rest
  | .brokerSelected none :: _ =>
    (m, .sendEvent (some (.pamError .system "missing broker selected")))
  | .brokerSelected (some brokerId) :: rest =>
    pollEvents m (commands ++ [.sendEvent (some (.brokerSelected brokerId))]) rest
  | .authModeSelected none :: _ => (m, .sendEvent (some (.pamError .system "missing auth mode id")))
  | .authModeSelected (some id) :: rest => pollEvents m (commands ++ [selectAuthMode id]) rest
  | .isAuthenticatedRequested request :: rest =>
    if !m.waitingAuth then pollEvents m commands rest else
    match request with
    | some (some item) =>
      pollEvents { m with waitingAuth := false }
        (commands ++ [.sendEvent (some (.isAuthenticatedRequested item))]) rest
    | _ => ({ m with waitingAuth := false },
        .sendEvent (some (.pamError .system "missing auth requested")))
  | .reselectAuthMode :: rest =>
    pollEvents m (commands ++ [.sendEvent (some .reselectAuthMode)]) rest
  | .isAuthenticatedCancelled :: rest =>
    pollEvents m
      (if m.waitingAuth then commands ++ [.sendEvent (some (.isAuthenticatedCancelled []))]
        else commands)
      rest
  | .stageChanged none :: _ => (m, .sendEvent (some (.pamError .system "missing stage changed")))
  | .stageChanged (some stage) :: rest =>
    pollEvents m
      (commands ++ (if m.waitingAuth ∧ stage ≠ .challenge
        then [.sendEvent (some (.isAuthenticatedCancelled []))] else []) ++
        [.sendEvent (some (.changeStage stage))]) rest
  | .other :: rest => pollEvents m commands rest

/-- `pollGdm`, given what `gdm.SendPoll` returns. -/
def pollGdm (m : GdmModel) : Except String (List PollEvent) → GdmModel × Cmd
  | .error err => (m, .sendEvent (some (.pamError .system s!"Sending GDM poll failed: {err}")))
  | .ok results => pollEvents m [.sendEvent (some .gdmPollDone)] results

/-! ## `Update` -/

/-- `emitEventSync`: the message it returns, nil or a `pamError`. -/
def emitEventSync (emitResult : Option String) : Option Msg :=
  emitResult.map fun err => .pamError .system s!"Sending GDM event failed: {err}"

def authGranted : List UInt8 := "granted".toUTF8.toList
def authDenied : List UInt8 := "denied".toUTF8.toList
def authCancelled : List UInt8 := "cancelled".toUTF8.toList
def authRetry : List UInt8 := "retry".toUTF8.toList
def authNext : List UInt8 := "next".toUTF8.toList

/-- `fmt.Sprintf(` `{"message": %s}` `, json.Marshal(fmt.Sprintf("Access %q is not valid", access)))`. -/
def invalidAccessMsg (h : Helpers) (access : List UInt8) : List UInt8 :=
  "\x7b\"message\": ".toUTF8.toList ++
    h.marshalString ("Access ".toUTF8.toList ++ h.quote access ++ " is not valid".toUTF8.toList) ++
    "\x7d".toUTF8.toList

/-- `Update`: the model it returns, the command, and the conversations with GDM it
holds while it runs. -/
def update (h : Helpers) (m : GdmModel) (reply : Reply) (msg : Msg) :
    GdmModel × Option Cmd × List Conversation :=
  if m.conversationsStopped then (m, none, []) else
  match msg with
  | .gdmPollDone =>
    let (m, poll) := pollGdm m reply.poll
    (m, some (.sequence [.tick, poll]), [.poll])
  | .userSelected username => (m, some (.emitEvent (.userSelected username)), [])
  | .brokersListReceived brokers => (m, some (.emitEvent (.brokersReceived brokers)), [])
  | .brokerSelected brokerID => (m, some (.emitEvent (.brokerSelected brokerID)), [])
  | .authModesReceived authModes => (m, some (.emitEvent (.authModesReceived authModes)), [])
  | .authModeSelected id => (m, some (.emitEvent (.authModeSelected id)), [])
  | .uiLayoutReceived layout =>
    (m, some (.sendEvent (emitEventSync reply.emit)), [.emit (.uiLayoutReceived layout)])
  | .startAuthentication =>
    if m.waitingAuth then (m, none, []) else
    ({ m with waitingAuth := true }, some (.sendEvent (emitEventSync reply.emit)),
      [.emit .startAuthentication])
  | .isAuthenticatedResultReceived access data =>
    match h.dataToMsg data with
    | .error err => (m, some (.sendEvent (some (.pamError .system err))), [])
    | .ok authMsg =>
      if access = authCancelled then
        (m, some (.sendEvent (some (.isAuthenticatedCancelled []))), [])
      else if access = authGranted ∨ access = authDenied ∨ access = authRetry ∨ access = authNext
      then (m, some (.sendEvent (emitEventSync reply.emit)), [.emit (.authEvent access authMsg)])
      else (m, some (.sendEvent (some (.isAuthenticatedResultReceived authDenied
        (invalidAccessMsg h access)))), [])
  | .isAuthenticatedCancelled cancelMsg =>
    ({ m with waitingAuth := false }, some (.sendEvent (emitEventSync reply.emit)),
      [.emit (.authEvent authCancelled cancelMsg)])
  | _ => (m, none, [])

/-- Once conversations are stopped, `Update` returns at its first line: the model as it
is, no command and no conversation with GDM, whatever the message. -/
theorem update_stopped (h : Helpers) {m : GdmModel} (reply : Reply) (msg : Msg)
    (stopped : m.conversationsStopped = true) : update h m reply msg = (m, none, []) :=
  if_pos stopped

/-! ## `Init`, `changeStage`, `stopConversations` -/

/-- GDM's answer to the hello. -/
structure HelloReply where
  /-- `reply.Type`, by the name `%s` prints for it. -/
  dataType : String
  /-- `reply.Hello.Version`; `none` when `reply.Hello` is nil. -/
  version : Option Int

/-- `protoHello`, with `gdm.ProtoVersion` a parameter: nil, or the command that reports
the failed hello. -/
def protoHello (protoVersion : Int) : Except String HelloReply → Option Cmd
  | .error err =>
    some (.sendEvent (some (.pamError .credUnavail s!"GDM initialization failed: {err}")))
  | .ok ⟨dataType, version⟩ =>
    if dataType = "hello" ∧ version = some protoVersion then none else
    let version := version.getD (-1)
    some (.sendEvent (some (.pamError .credUnavail
      s!"GDM protocol initialization failed, type {dataType}, version {version}")))

/-- `Init`: the hello and the first poll happen while `Init` runs. `tea.Sequence` skips
a nil command. -/
def init (m : GdmModel) (protoVersion : Int) (hello : Except String HelloReply)
    (poll : Except String (List PollEvent)) : GdmModel × Cmd × List Conversation :=
  let (m, pollCmd) := pollGdm m poll
  (m, .sequence ((protoHello protoVersion hello).toList ++ [.requestUICapabilities, pollCmd]),
    [.hello, .poll])

/-- `changeStage`: no command once conversations are stopped. -/
def GdmModel.changeStage (m : GdmModel) (s : Stage) : Option Cmd :=
  if m.conversationsStopped then none else some (.changeStage s)

/-- `stopConversations`, after its wait for the conversation in progress. -/
def GdmModel.stopConversations (m : GdmModel) : GdmModel :=
  { m with conversationsStopped := true }

end Authd.Gdm
