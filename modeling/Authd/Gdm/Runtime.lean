import Mathlib.Algebra.BigOperators.Group.List
import Mathlib.Algebra.Order.Ring.Nat
import Authd.Gdm.Authentication

/-!
# The bubbletea runtime that runs `gdmModel`

bubbletea calls each command in a goroutine of its own and sends the message
the command returns to the program's channel; its event loop hands the
messages to `Update` one at a time, in the order they were sent. A command
made by `tea.Batch` returns a `BatchMsg`, and the event loop then calls each
of its commands in a goroutine of its own, so their messages come in any
order. A command made by `tea.Sequence` returns a `sequenceMsg`, and the event
loop then starts one goroutine that calls its commands one after another; when
one of them returns a `BatchMsg`, the goroutine calls the batch's commands in
goroutines of their own and waits for all of them before it goes on.

The runtime below takes one step at a time, and any goroutine may take the
next one. `stopConversations` sets `conversationsStopped` on the model, and
from then on `Update` holds no conversation with GDM. The commands made before
the stop are closures that hold conversations when they are called, and none of
them reads the flag.

This file proves the following.
* A command `Init` made before the stop asks GDM for its UI capabilities after
  the stop (`capabilities_requested_after_stop`).
* The messages of one poll can reach `Update` in another order than GDM sent
  the events (`poll_messages_reordered`).
* What the stop does hold back: after it, in every run, the runtime holds no
  more conversations than the commands pending at the stop hold, none of them
  for `Update` (`conversations_after_stop`).
* The handshake law of `Authd.Gdm.Authentication` holds under every schedule
  of the runtime (`runtime_handshake_alternates`).
-/

namespace Authd.Gdm

/-! ## 1. Goroutines and the channel -/

/-- What a goroutine sends to the program: a message for `Update`, or the
`BatchMsg` or `sequenceMsg` of a command, which the event loop runs itself. -/
inductive Sent
  | msg (msg : Msg)
  | batch (cmds : List Cmd)
  | sequence (cmds : List Cmd)

/-- A goroutine of the runtime. -/
inductive Task
  /-- A goroutine that calls `cmd` and sends what it returns. -/
  | call (cmd : Cmd)
  /-- The goroutine of a sequence: the commands of the batch it waits for, each called
  by a goroutine of the errgroup, and the commands it calls after them. -/
  | sequence (waiting : List Cmd) (rest : List Cmd)

/-- The message of the closure of `requestUICapabilities`, from GDM's answer. -/
def uiCapabilitiesMsg : Except String (Option (List String)) → Msg
  | .error err => .pamError .system s!"Sending GDM UI capabilities Request failed: {err}"
  | .ok none => .supportedUILayoutsReceived []
  | .ok (some layouts) => .supportedUILayoutsReceived layouts

/-- The message of the closure of `changeStage`, from the error of `gdm.SendRequest`. -/
def changeStageMsg (changeResult : Option String) : Option Msg :=
  changeResult.map fun err => .pamError .system s!"Changing GDM stage failed: {err}"

/-- Calling a command, GDM answering `reply`: the conversation it holds, if any, and what it
returns (`none` for nil). `tea.Tick`'s function returns nil. -/
def Cmd.call (reply : Reply) : Cmd → Option Conversation × Option Sent
  | .sendEvent msg => (none, msg.map .msg)
  | .emitEvent event => (some (.emit event), (emitEventSync reply.emit).map .msg)
  | .requestUICapabilities =>
    (some .uiLayoutCapabilities, some (.msg (uiCapabilitiesMsg reply.uiLayoutCapabilities)))
  | .changeStage stage => (some (.changeStage stage), (changeStageMsg reply.changeStage).map .msg)
  | .tick => (none, none)
  | .batch cmds => (none, some (.batch cmds))
  | .sequence cmds => (none, some (.sequence cmds))

/-- The program: the model, its goroutines, the messages sent and not yet handed on, every
conversation with GDM so far with whether conversations were stopped when it was held, and
the messages `Update` was handed, in order. `authSteps` records the steps of the
authentication handshake that `Init` and `Update` took; the program does not keep it. -/
structure Runtime where
  model : GdmModel
  tasks : List Task
  channel : List Sent
  conversations : List (Conversation × Bool)
  delivered : List Msg
  authSteps : List AuthMark

/-- A step of the runtime. -/
inductive Action
  /-- Goroutine `task` calls its next command: for a sequence waiting for a batch, the
  `choice`-th command of the batch. GDM answers `reply`. -/
  | exec (task choice : Nat) (reply : Reply)
  /-- The event loop takes the first message of the channel; GDM answers `reply` to the
  conversations `Update` holds. -/
  | deliver (reply : Reply)
  /-- The rest of the program sends `msg`. -/
  | post (msg : Msg)
  /-- The program stops the conversations and uses the model `stopConversations` returns. -/
  | stop

/-! ## 2. Steps and runs -/

/-- The runtime once a goroutine has called a command: the conversation logged, what the
command returned sent. -/
def Runtime.called (rt : Runtime) (result : Option Conversation × Option Sent) : Runtime :=
  { rt with
    conversations :=
      rt.conversations ++ (result.1.map fun c => (c, rt.model.conversationsStopped)).toList
    channel := rt.channel ++ result.2.toList }

/-- Goroutine `i` calls its next command. A sequence that reaches a batch waits for it; a
finished sequence takes no step. -/
def Runtime.exec (rt : Runtime) (i choice : Nat) (reply : Reply) : Option Runtime :=
  match rt.tasks[i]? with
  | none => none
  | some (.call cmd) => some { rt.called (cmd.call reply) with tasks := rt.tasks.eraseIdx i }
  | some (.sequence [] []) => none
  | some (.sequence [] (.batch cmds :: rest)) =>
    some { rt with tasks := rt.tasks.set i (.sequence cmds rest) }
  | some (.sequence [] (cmd :: rest)) =>
    some { rt.called (cmd.call reply) with tasks := rt.tasks.set i (.sequence [] rest) }
  | some (.sequence waiting rest) =>
    match waiting[choice]? with
    | none => none
    | some cmd =>
      some { rt.called (cmd.call reply) with
        tasks := rt.tasks.set i (.sequence (waiting.eraseIdx choice) rest) }

/-- The event loop takes the first message of the channel: `Update` handles a message, and
its command is called in a goroutine; a batch's commands each get a goroutine; a sequence
gets one. -/
def Runtime.deliver (h : Helpers) (rt : Runtime) (reply : Reply) : Option Runtime :=
  match rt.channel with
  | [] => none
  | .msg msg :: rest =>
    let out := update h rt.model reply msg
    some {
      model := out.1
      tasks := rt.tasks ++ (out.2.1.map .call).toList
      channel := rest
      conversations :=
        rt.conversations ++ out.2.2.map fun c => (c, rt.model.conversationsStopped)
      delivered := rt.delivered ++ [msg]
      authSteps := rt.authSteps ++ handshake out.2.1 out.2.2 }
  | .batch cmds :: rest => some { rt with tasks := rt.tasks ++ cmds.map .call, channel := rest }
  | .sequence cmds :: rest =>
    some { rt with tasks := rt.tasks ++ [.sequence [] cmds], channel := rest }

def Runtime.step (h : Helpers) (rt : Runtime) : Action → Option Runtime
  | .exec i choice reply => rt.exec i choice reply
  | .deliver reply => rt.deliver h reply
  | .post msg => some { rt with channel := rt.channel ++ [.msg msg] }
  | .stop => some { rt with model := rt.model.stopConversations }

/-- The runtime after `actions`, or `none` when one of them cannot be taken. -/
def Runtime.run (h : Helpers) (rt : Runtime) : List Action → Option Runtime
  | [] => some rt
  | a :: rest => (rt.step h a).bind fun rt => rt.run h rest

/-- The runtime as `Init` leaves it: a new model, `Init`'s command in a goroutine, the
hello and the first poll held. -/
def Runtime.start (protoVersion : Int) (hello : Except String HelloReply)
    (poll : Except String (List PollEvent)) : Runtime :=
  let started := init GdmModel.new protoVersion hello poll
  ⟨started.1, [.call started.2.1], [], started.2.2.map fun c => (c, false), [],
    handshake (some started.2.1) started.2.2⟩

/-! ## 3. Conversations after the stop, and the order of a poll's messages -/

/-- GDM's replies in the runs below: every conversation goes through, and polls find no
event. -/
def quietReply : Reply := ⟨.ok [], none, .ok none, none⟩

/-- GDM answers the hello; the program stops the conversations at once. `Init`'s sequence
then runs, and asks GDM for its UI capabilities while conversations are stopped. -/
theorem capabilities_requested_after_stop (h : Helpers) :
    ((Runtime.start 1 (.ok ⟨"hello", some 1⟩) (.ok [])).run h
        [.stop, .exec 0 0 quietReply, .deliver quietReply, .exec 0 0 quietReply]).map
      Runtime.conversations =
    some [(.hello, false), (.poll, false), (.uiLayoutCapabilities, true)] :=
  rfl

/-- GDM answers the first poll with `UserSelected`, then `BrokerSelected`. The goroutines
of the poll's batch send `brokerSelected` before `userSelected`, and `Update` is handed them
in that order. -/
theorem poll_messages_reordered (h : Helpers) :
    ((Runtime.start 1 (.ok ⟨"hello", some 1⟩)
        (.ok [.userSelected "alice", .brokerSelected (some "local")])).run h
        [.exec 0 0 quietReply, .deliver quietReply, .exec 0 0 quietReply, .exec 0 0 quietReply,
          .exec 0 2 quietReply, .exec 0 1 quietReply,
          .deliver quietReply, .deliver quietReply, .deliver quietReply]).map
      Runtime.delivered =
    some [.supportedUILayoutsReceived [], .brokerSelected "local", .userSelected "alice"] :=
  rfl

/-! ## 4. What the stop leaves to run -/

mutual
/-- How many conversations with GDM a command holds when it runs, through its batches and
sequences. -/
def Cmd.talks : Cmd → Nat
  | .emitEvent _ => 1
  | .requestUICapabilities => 1
  | .changeStage _ => 1
  | .batch cmds => Cmd.talksList cmds
  | .sequence cmds => Cmd.talksList cmds
  | _ => 0

def Cmd.talksList : List Cmd → Nat
  | [] => 0
  | c :: cs => c.talks + Cmd.talksList cs
end

theorem talksList_eq (cmds : List Cmd) : Cmd.talksList cmds = (cmds.map Cmd.talks).sum := by
  induction cmds with
  | nil => rfl
  | cons c cs ih => simp [Cmd.talksList, ih]

def Task.talks : Task → Nat
  | .call cmd => cmd.talks
  | .sequence waiting rest => Cmd.talksList waiting + Cmd.talksList rest

@[simp] theorem Task.talks_call (cmd : Cmd) : (Task.call cmd).talks = cmd.talks := rfl

def Sent.talks : Sent → Nat
  | .msg _ => 0
  | .batch cmds => Cmd.talksList cmds
  | .sequence cmds => Cmd.talksList cmds

/-- The conversations the runtime has held, and those its goroutines and its channel hold
still. -/
def Runtime.talks (rt : Runtime) : Nat :=
  rt.conversations.length + (rt.tasks.map Task.talks).sum + (rt.channel.map Sent.talks).sum

theorem sum_map_set {α : Type} (f : α → Nat) {l : List α} {i : Nat} {x : α} (y : α)
    (found : l[i]? = some x) : ((l.set i y).map f).sum + f x = (l.map f).sum + f y := by
  induction l generalizing i with
  | nil => simp at found
  | cons a l ih =>
    cases i with
    | zero =>
      obtain rfl : a = x := by simpa using found
      simp only [List.set_cons_zero, List.map_cons, List.sum_cons]
      omega
    | succ i =>
      have := ih (by simpa using found)
      simp only [List.set_cons_succ, List.map_cons, List.sum_cons]
      omega

theorem sum_map_eraseIdx {α : Type} (f : α → Nat) {l : List α} {i : Nat} {x : α}
    (found : l[i]? = some x) : ((l.eraseIdx i).map f).sum + f x = (l.map f).sum := by
  induction l generalizing i with
  | nil => simp at found
  | cons a l ih =>
    cases i with
    | zero =>
      obtain rfl : a = x := by simpa using found
      simp only [List.eraseIdx_cons_zero, List.map_cons, List.sum_cons]
      omega
    | succ i =>
      have := ih (by simpa using found)
      simp only [List.eraseIdx_cons_succ, List.map_cons, List.sum_cons]
      omega

/-- A call holds the conversations of its command, or hands them on in what it returns. -/
theorem Cmd.call_talks (reply : Reply) (cmd : Cmd) :
    (cmd.call reply).1.toList.length + ((cmd.call reply).2.map Sent.talks).getD 0 = cmd.talks := by
  cases cmd with
  | sendEvent msg => cases msg <;> rfl
  | emitEvent event => rcases reply with ⟨_, _ | _, _, _⟩ <;> rfl
  | changeStage stage => rcases reply with ⟨_, _, _, _ | _⟩ <;> rfl
  | batch cmds | sequence cmds => exact Nat.zero_add _
  | requestUICapabilities | tick => rfl

theorem Runtime.called_talks (rt : Runtime) (reply : Reply) (cmd : Cmd) (tasks : List Task) :
    { rt.called (cmd.call reply) with tasks := tasks }.talks =
      rt.conversations.length + (tasks.map Task.talks).sum + (rt.channel.map Sent.talks).sum +
        cmd.talks := by
  have accounted := Cmd.call_talks reply cmd
  generalize cmd.call reply = result at accounted ⊢
  rcases result with ⟨_ | _, _ | _⟩ <;>
    simp_all [Runtime.talks, Runtime.called, List.sum_append] <;> omega

/-- A goroutine's step leaves the model alone, and neither starts a conversation nor loses
one: it holds one its command held, or hands the command's on. -/
theorem Runtime.exec_talks {rt rt' : Runtime} {i choice : Nat} {reply : Reply}
    (ran : rt.exec i choice reply = some rt') :
    rt'.model = rt.model ∧ rt'.authSteps = rt.authSteps ∧ rt'.talks = rt.talks := by
  unfold Runtime.exec at ran
  split at ran
  · cases ran
  · rename_i cmd found
    cases ran
    have erased := sum_map_eraseIdx Task.talks found
    simp only [Runtime.called_talks, Task.talks] at erased ⊢
    exact ⟨rfl, rfl, by simp only [Runtime.talks]; omega⟩
  · cases ran
  · rename_i cmds rest found
    cases ran
    have moved := sum_map_set Task.talks (.sequence cmds rest) found
    simp only [Task.talks, Cmd.talksList, Cmd.talks] at moved
    exact ⟨rfl, rfl, by simp only [Runtime.talks]; omega⟩
  · rename_i cmd rest notBatch found
    cases ran
    have moved := sum_map_set Task.talks (.sequence [] rest) found
    simp only [Task.talks, Cmd.talksList] at moved
    simp only [Runtime.called_talks]
    exact ⟨rfl, rfl, by simp only [Runtime.talks]; omega⟩
  · rename_i waiting rest notFinished notBatch notCall found
    split at ran
    · cases ran
    · rename_i cmd chosen
      cases ran
      have moved := sum_map_set Task.talks (.sequence (waiting.eraseIdx choice) rest) found
      have erased := sum_map_eraseIdx Cmd.talks chosen
      simp only [Task.talks, talksList_eq] at moved erased ⊢
      simp only [Runtime.called_talks]
      exact ⟨rfl, rfl, by simp only [Runtime.talks]; omega⟩

/-- Once the conversations are stopped, every step keeps them stopped, and neither starts a
conversation nor loses one: `Update` returns at once, and the goroutines only run what they
hold. -/
theorem Runtime.step_talks_stopped {h : Helpers} {rt rt' : Runtime} {a : Action}
    (stopped : rt.model.conversationsStopped = true) (stepped : rt.step h a = some rt') :
    rt'.model.conversationsStopped = true ∧ rt'.talks = rt.talks := by
  cases a with
  | exec i choice reply =>
    obtain ⟨same, -, talks⟩ := Runtime.exec_talks stepped
    exact ⟨same ▸ stopped, talks⟩
  | deliver reply =>
    simp only [Runtime.step, Runtime.deliver] at stepped
    split at stepped
    · cases stepped
    · rename_i msg rest taken
      simp only [update, stopped, if_true, Option.some.injEq] at stepped
      subst stepped
      refine ⟨stopped, ?_⟩
      simp [Runtime.talks, taken, Sent.talks]
    · rename_i cmds rest taken
      cases stepped
      refine ⟨stopped, ?_⟩
      have calls : (cmds.map Task.call).map Task.talks = cmds.map Cmd.talks := by
        rw [List.map_map]
        rfl
      simp only [Runtime.talks, taken, List.map_append, List.sum_append, calls, List.map_cons,
        List.sum_cons, Sent.talks, talksList_eq]
      omega
    · rename_i cmds rest taken
      cases stepped
      refine ⟨stopped, ?_⟩
      simp [Runtime.talks, taken, Task.talks, Sent.talks, Cmd.talksList]
      omega
  | post msg =>
    cases stepped
    exact ⟨stopped, by simp [Runtime.talks, Sent.talks]⟩
  | stop =>
    cases stepped
    exact ⟨rfl, rfl⟩

theorem Runtime.run_talks_stopped {h : Helpers} {rt rt' : Runtime} {actions : List Action}
    (stopped : rt.model.conversationsStopped = true) (ran : rt.run h actions = some rt') :
    rt'.model.conversationsStopped = true ∧ rt'.talks = rt.talks := by
  induction actions generalizing rt with
  | nil =>
    cases ran
    exact ⟨stopped, rfl⟩
  | cons a rest ih =>
    obtain ⟨mid, stepped, ran⟩ := Option.bind_eq_some.mp ran
    obtain ⟨stillStopped, same⟩ := Runtime.step_talks_stopped stopped stepped
    obtain ⟨finallyStopped, kept⟩ := ih stillStopped ran
    exact ⟨finallyStopped, kept.trans same⟩

/-- Once the conversations are stopped, the runtime holds no more conversations with GDM than
it had held and its goroutines and channel hold: none comes from `Update`, and when no
pending command talks to GDM, no conversation comes at all. -/
theorem conversations_after_stop (h : Helpers) {rt rt' : Runtime} {actions : List Action}
    (stopped : rt.model.conversationsStopped = true) (ran : rt.run h actions = some rt') :
    rt'.conversations.length ≤ rt.talks := by
  have kept := (Runtime.run_talks_stopped stopped ran).2
  simp only [Runtime.talks] at kept ⊢
  omega

/-- The run of `capabilities_requested_after_stop`: after the stop, only the request that
`Init`'s sequence holds is made. -/
theorem conversations_after_stop_capabilities :
    ∃ rt rt', (Runtime.start 1 (.ok ⟨"hello", some 1⟩) (.ok [])).run ⟨fun _ => .ok [], id, id⟩
        [.stop] = some rt ∧ rt.model.conversationsStopped = true ∧
      rt.run ⟨fun _ => .ok [], id, id⟩
        [.exec 0 0 quietReply, .deliver quietReply, .exec 0 0 quietReply] = some rt' ∧
      rt'.conversations.length ≤ rt.talks := by
  refine ⟨?rt, ?rt', ?started, ?stopped, ?ran, conversations_after_stop _ ?stopped ?ran⟩
  case started => exact rfl
  case stopped => rfl
  case ran => exact rfl

/-! ## 5. The handshake under every schedule -/

theorem Runtime.step_armed {h : Helpers} {rt rt' : Runtime} {a : Action}
    (armed : Armed rt.authSteps rt.model) (stepped : rt.step h a = some rt') :
    Armed rt'.authSteps rt'.model := by
  cases a with
  | exec i choice reply =>
    obtain ⟨model, steps, -⟩ := Runtime.exec_talks stepped
    rwa [model, steps]
  | deliver reply =>
    simp only [Runtime.step, Runtime.deliver] at stepped
    split at stepped
    · cases stepped
    · cases stepped
      exact armed.update h reply _
    · cases stepped
      exact armed
    · cases stepped
      exact armed
  | post msg =>
    cases stepped
    exact armed
  | stop =>
    cases stepped
    exact ⟨armed.alternates, armed.last⟩

theorem Runtime.run_armed {h : Helpers} {rt rt' : Runtime} {actions : List Action}
    (armed : Armed rt.authSteps rt.model) (ran : rt.run h actions = some rt') :
    Armed rt'.authSteps rt'.model := by
  induction actions generalizing rt with
  | nil =>
    cases ran
    exact armed
  | cons a rest ih =>
    obtain ⟨mid, stepped, ran⟩ := Option.bind_eq_some.mp ran
    exact ih (Runtime.step_armed armed stepped) ran

/-- Whatever the schedule of the goroutines, the messages the rest of the program sends,
GDM's answers and the stop, the steps of the handshake that `Init` and `Update` take
alternate as `requests_alternate_with_starts` says. -/
theorem runtime_handshake_alternates (h : Helpers) (protoVersion : Int)
    (hello : Except String HelloReply) (poll : Except String (List PollEvent))
    {actions : List Action} {rt : Runtime}
    (ran : (Runtime.start protoVersion hello poll).run h actions = some rt) :
    Alternates rt.authSteps :=
  (Runtime.run_armed (armed_init protoVersion hello poll) ran).alternates

/-- A start of the authentication is posted and accepted. -/
theorem runtime_handshake_started :
    ∃ rt, (Runtime.start 1 (.ok ⟨"hello", some 1⟩) (.ok [])).run ⟨fun _ => .ok [], id, id⟩
        [.post .startAuthentication, .deliver quietReply, .exec 1 0 quietReply] = some rt ∧
      Alternates rt.authSteps := by
  refine ⟨?rt, ?ran, runtime_handshake_alternates _ 1 _ _ ?ran⟩
  case ran => exact rfl

end Authd.Gdm
