import Authd.Gdm.Runtime
import Authd.Gdm.Access

/-!
# What holds under every schedule of the runtime

`gdmModel` polls GDM in a loop that no goroutine owns: `pollGdm` puts a
`sendEvent(gdmPollDone{})` first in the batch it returns, `Update` answers
`gdmPollDone` with a tick followed by the next poll, and the loop goes round
through the runtime's goroutines and channel. A poll that fails, or that finds an
event with a missing field, returns a `pamError` in place of the batch and so
ends the loop; so does `Update` once conversations are stopped.

What a step of the runtime does to a count over its pending commands is said once,
for every count that adds up through batches and sequences (`Tally`):
`Runtime.exec_pending` and `Runtime.deliver_pending`. Two counts are kept. A round of
the loop is pending while a `gdmPollDone` is carried by a command a goroutine will
call, or sits in the channel: `Runtime.polls`. An `AuthEvent` is pending while a
command that emits one waits to be called: `authEmits`, which stays zero, since
`Update` holds those conversations itself.

Results:
1. `poll_loop_single`: whatever GDM answers, whatever the schedule of the
   goroutines and whatever else the program sends, at most one round of the poll
   loop is pending: the loop never forks;
2. `poll_loop_kept`: while conversations go on and GDM answers every poll with
   events whose fields are set, the round `Init` started stays pending, exactly
   one, whatever the schedule: the loop is never lost;
3. `authEvents_known_access`: every `AuthEvent` GDM is sent carries one of the
   five access values of the brokers, whatever access a broker answers; `Update`
   holds those conversations itself, and neither its commands nor a poll's emit one.
-/

namespace Authd.Gdm

/-! ## 1. What `pollGdm` and `Update` return -/

/-- An event all of whose fields are set: `pollGdm` reports no missing field for it. -/
def PollEvent.complete : PollEvent → Bool
  | .brokerSelected none | .authModeSelected none | .isAuthenticatedRequested none
  | .isAuthenticatedRequested (some none) | .stageChanged none => false
  | _ => true

/-- Commands that forward a message of a poll to the program: `sendEvent`s of messages
other than `gdmPollDone`. -/
def Forwards (cmds : List Cmd) : Prop :=
  ∀ c ∈ cmds, ∃ msg, c = .sendEvent (some msg) ∧ msg ≠ .gdmPollDone

theorem forwards_append {a b : List Cmd} (fa : Forwards a) (fb : Forwards b) : Forwards (a ++ b) :=
  fun c member => (List.mem_append.mp member).elim (fa c) (fb c)

theorem forwards_sendEvent {msg : Msg} (other : msg ≠ .gdmPollDone) :
    Forwards [.sendEvent (some msg)] := by
  simpa [Forwards] using other

/-- What the loop of `pollGdm` ends with: the batch of the commands it was given and the
forwards it added, or the `pamError` of an event with a missing field. -/
def PollOutcome (commands : List Cmd) (events : List PollEvent) (cmd : Cmd) : Prop :=
  (∃ forwards, Forwards forwards ∧ cmd = .batch (commands ++ forwards)) ∨
    (∃ s, cmd = .sendEvent (some (.pamError .system s))) ∧ ∃ e ∈ events, e.complete = false

/-- One event that adds the forwards `new` keeps the outcome of the rest of the loop. -/
theorem PollOutcome.forward {commands new : List Cmd} {e : PollEvent} {events : List PollEvent}
    {cmd : Cmd} (rest : PollOutcome (commands ++ new) events cmd) (fnew : Forwards new) :
    PollOutcome commands (e :: events) cmd := by
  rcases rest with ⟨forwards, fw, rfl⟩ | ⟨failed, e', member, incomplete⟩
  · exact .inl ⟨new ++ forwards, forwards_append fnew fw, by rw [List.append_assoc]⟩
  · exact .inr ⟨failed, e', List.mem_cons_of_mem e member, incomplete⟩

theorem PollOutcome.skip {commands : List Cmd} {e : PollEvent} {events : List PollEvent}
    {cmd : Cmd} (rest : PollOutcome commands events cmd) : PollOutcome commands (e :: events) cmd :=
  (by rwa [List.append_nil] : PollOutcome (commands ++ []) events cmd).forward fun _ => nofun

/-- The loop of `pollGdm` only adds forwards to the batch, or ends with a `pamError` for an
event with a missing field; and it leaves `conversationsStopped` alone. -/
theorem pollEvents_outcome (m : GdmModel) (commands : List Cmd) (events : List PollEvent) :
    PollOutcome commands events (pollEvents m commands events).2 ∧
      (pollEvents m commands events).1.conversationsStopped = m.conversationsStopped := by
  induction m, commands, events using pollEvents.induct with
  | case1 => exact ⟨.inl ⟨[], fun _ => nofun, by simp [pollEvents]⟩, rfl⟩
  | case3 | case5 | case12 =>
    -- a nil field: the poll reports it and drops what it collected
    exact ⟨.inr ⟨⟨_, rfl⟩, _, List.mem_cons_self _ _, rfl⟩, rfl⟩
  | case9 m commands request rest waiting malformed =>
    -- a request without data while one is awaited
    simp only [Bool.not_eq_true', Bool.not_eq_false] at waiting
    rcases request with _ | _ | item
    · simp only [pollEvents, waiting, Bool.not_true, Bool.false_eq_true, if_false]
      exact ⟨.inr ⟨⟨_, rfl⟩, _, List.mem_cons_self _ _, rfl⟩, trivial⟩
    · simp only [pollEvents, waiting, Bool.not_true, Bool.false_eq_true, if_false]
      exact ⟨.inr ⟨⟨_, rfl⟩, _, List.mem_cons_self _ _, rfl⟩, trivial⟩
    · exact absurd rfl (malformed item)
  | case2 _ _ _ _ ih | case4 _ _ _ _ ih | case6 _ _ _ _ ih | case10 _ _ _ ih =>
    simp only [pollEvents]
    exact ⟨ih.1.forward (forwards_sendEvent (by simp)), ih.2⟩
  | case7 _ _ _ _ notWaiting ih =>
    simp only [pollEvents, notWaiting, if_true]
    exact ⟨ih.1.skip, ih.2⟩
  | case8 _ _ _ waiting _ ih =>
    simp only [Bool.not_eq_true', Bool.not_eq_false] at waiting
    simp only [pollEvents, waiting]
    exact ⟨ih.1.forward (forwards_sendEvent (by simp)), ih.2⟩
  | case11 m _ _ ih =>
    simp only [pollEvents]
    by_cases waiting : m.waitingAuth = true
    · simp only [waiting, if_true] at ih ⊢
      exact ⟨ih.1.forward (forwards_sendEvent (by simp)), ih.2⟩
    · simp only [waiting, if_false] at ih ⊢
      exact ⟨ih.1.skip, ih.2⟩
  | case13 _ _ _ _ ih =>
    simp only [pollEvents]
    rw [List.append_assoc] at ih ⊢
    exact ⟨ih.1.forward (forwards_append (by split_ifs <;> simp [Forwards])
      (forwards_sendEvent (by simp))), ih.2⟩
  | case14 _ _ _ ih =>
    simp only [pollEvents]
    exact ⟨ih.1.skip, ih.2⟩

/-- GDM answered a poll with events all of whose fields are set. -/
def PollAnswered : Except String (List PollEvent) → Prop
  | .error _ => False
  | .ok events => ∀ e ∈ events, e.complete = true

/-- Whether an event GDM is sent is an `AuthEvent`. -/
def Event.isAuthEvent : Event → Bool
  | .authEvent _ _ => true
  | _ => false

/-- A command `Update` returns for a message other than `gdmPollDone`: a `sendEvent` of a
message other than `gdmPollDone`, or the `emitEvent` of an event other than an `AuthEvent`. -/
def Cmd.plain : Cmd → Bool
  | .sendEvent msg => msg != some .gdmPollDone
  | .emitEvent event => !event.isAuthEvent
  | _ => false

theorem plain_emitEventSync (emitResult : Option String) :
    (Cmd.sendEvent (emitEventSync emitResult)).plain = true := by
  cases emitResult <;> rfl

/-- Handed a message other than `gdmPollDone`, `Update` returns no command or a plain one. -/
theorem update_plain (h : Helpers) (m : GdmModel) (reply : Reply) {msg : Msg}
    (other : msg ≠ .gdmPollDone) : ∀ c ∈ (update h m reply msg).2.1, c.plain = true := by
  intro c member
  cases stopped : m.conversationsStopped
  case true => simp [update_stopped h reply msg stopped] at member
  cases msg
  all_goals simp only [update, stopped, Bool.false_eq_true, if_false, Option.mem_def,
    Option.some.injEq, reduceCtorEq] at member
  all_goals first
    | exact absurd rfl other
    | (subst member; first | rfl | exact plain_emitEventSync _)
    | skip
  case startAuthentication =>
    split_ifs at member
    obtain rfl := Option.some.inj member
    exact plain_emitEventSync _
  case isAuthenticatedResultReceived access data =>
    split at member
    · obtain rfl := Option.some.inj member
      rfl
    · split_ifs at member <;> obtain rfl := Option.some.inj member <;>
        first | rfl | exact plain_emitEventSync _

/-- `Update` leaves `conversationsStopped` alone: only `stopConversations` sets it. -/
theorem update_conversationsStopped (h : Helpers) (m : GdmModel) (reply : Reply) (msg : Msg) :
    (update h m reply msg).1.conversationsStopped = m.conversationsStopped := by
  unfold update
  split
  · rfl
  split
  · show (pollGdm m reply.poll).1.conversationsStopped = _
    rcases reply.poll with _ | events
    · rfl
    · exact (pollEvents_outcome m _ _).2
  all_goals first | rfl | split <;> first | rfl | split_ifs <;> rfl

/-! ## 2. Counts over the runtime -/

/-- A count over commands that adds up over batches and sequences: `leaf` counts a command
that is neither. A message waiting in the channel counts as the `sendEvent` that sent it. -/
structure Tally where
  leaf : Cmd → Nat

mutual
def Tally.cmd (T : Tally) : Cmd → Nat
  | .batch cmds => T.cmds cmds
  | .sequence cmds => T.cmds cmds
  | c => T.leaf c

def Tally.cmds (T : Tally) : List Cmd → Nat
  | [] => 0
  | c :: cs => T.cmd c + T.cmds cs
end

def Tally.task (T : Tally) : Task → Nat
  | .call cmd => T.cmd cmd
  | .sequence waiting rest => T.cmds waiting + T.cmds rest

def Tally.sent (T : Tally) : Sent → Nat
  | .msg m => T.leaf (.sendEvent (some m))
  | .batch cmds => T.cmds cmds
  | .sequence cmds => T.cmds cmds

/-- The count over what the runtime's goroutines will call and what waits in its channel. -/
def Tally.pending (T : Tally) (rt : Runtime) : Nat :=
  (rt.tasks.map T.task).sum + (rt.channel.map T.sent).sum

theorem Tally.cmds_eq (T : Tally) (cmds : List Cmd) : T.cmds cmds = (cmds.map T.cmd).sum := by
  induction cmds with
  | nil => rfl
  | cons c cs ih => rw [List.map_cons, List.sum_cons, ← ih]; rfl

theorem Tally.cmds_append (T : Tally) (a b : List Cmd) : T.cmds (a ++ b) = T.cmds a + T.cmds b := by
  simp only [Tally.cmds_eq, List.map_append, List.sum_append]

theorem Tally.calls (T : Tally) (cmds : List Cmd) :
    ((cmds.map Task.call).map T.task).sum = T.cmds cmds := by
  rw [List.map_map, Tally.cmds_eq]
  rfl

theorem Tally.pending_called (T : Tally) (rt : Runtime) (result : Option Conversation × Option Sent)
    (tasks : List Task) :
    T.pending { rt.called result with tasks := tasks } =
      (tasks.map T.task).sum + (rt.channel.map T.sent).sum + (result.2.map T.sent).getD 0 := by
  rcases result with ⟨_, _ | _⟩ <;>
    simp [Tally.pending, Runtime.called, List.sum_append, Nat.add_assoc]

/-- What a goroutine's step does to a count: it calls one command `cmd` of its task, and the
count loses `cmd`'s and gains what the call returns; or it opens the batch its sequence
reached, and the count stays. -/
theorem Runtime.exec_pending (T : Tally) {rt rt' : Runtime} {i choice : Nat} {reply : Reply}
    (ran : rt.exec i choice reply = some rt') :
    rt'.model = rt.model ∧
    ((rt'.conversations = rt.conversations ∧ T.pending rt' = T.pending rt) ∨
      ∃ cmd, rt'.conversations = rt.conversations ++
          ((cmd.call reply).1.map fun c => (c, rt.model.conversationsStopped)).toList ∧
        T.pending rt' + T.cmd cmd = T.pending rt + ((cmd.call reply).2.map T.sent).getD 0) := by
  refine ⟨(Runtime.exec_talks ran).1, ?_⟩
  unfold Runtime.exec at ran
  split at ran
  · cases ran
  · rename_i cmd found
    cases ran
    refine .inr ⟨cmd, rfl, ?_⟩
    have erased := sum_map_eraseIdx T.task found
    rw [Tally.pending_called]
    simp only [Tally.pending, Tally.task] at erased ⊢
    omega
  · cases ran
  · rename_i cmds rest found
    cases ran
    refine .inl ⟨rfl, ?_⟩
    have moved := sum_map_set T.task (.sequence cmds rest) found
    have opened : T.task (.sequence [] (.batch cmds :: rest)) = T.task (.sequence cmds rest) :=
      Nat.zero_add _
    simp only [Tally.pending]
    omega
  · rename_i cmd rest _ found
    cases ran
    refine .inr ⟨cmd, rfl, ?_⟩
    have moved := sum_map_set T.task (.sequence [] rest) found
    have called : T.task (.sequence [] (cmd :: rest)) = T.task (.sequence [] rest) + T.cmd cmd := by
      show 0 + (T.cmd cmd + T.cmds rest) = 0 + T.cmds rest + T.cmd cmd
      omega
    rw [Tally.pending_called]
    simp only [Tally.pending]
    omega
  · rename_i waiting rest _ _ _ found
    split at ran
    · cases ran
    · rename_i cmd chosen
      cases ran
      refine .inr ⟨cmd, rfl, ?_⟩
      have moved := sum_map_set T.task (.sequence (waiting.eraseIdx choice) rest) found
      have erased := sum_map_eraseIdx T.cmd chosen
      simp only [Tally.task, Tally.cmds_eq] at moved erased
      rw [Tally.pending_called]
      simp only [Tally.pending]
      omega

/-- What handing on the first message of the channel does to a count: `Update` handles it,
and the count loses the message and gains the command `Update` returns; or the event loop
opens a batch or a sequence, and the count stays. -/
theorem Runtime.deliver_pending (T : Tally) {h : Helpers} {rt rt' : Runtime} {reply : Reply}
    (delivered : rt.deliver h reply = some rt') :
    (rt'.model = rt.model ∧ rt'.conversations = rt.conversations ∧ T.pending rt' = T.pending rt) ∨
    ∃ msg, rt'.model = (update h rt.model reply msg).1 ∧
      rt'.conversations = rt.conversations ++
        (update h rt.model reply msg).2.2.map (fun c => (c, rt.model.conversationsStopped)) ∧
      T.pending rt' + T.sent (.msg msg) =
        T.pending rt + ((update h rt.model reply msg).2.1.map T.cmd).getD 0 := by
  unfold Runtime.deliver at delivered
  split at delivered
  · cases delivered
  · rename_i msg rest channel
    cases delivered
    refine .inr ⟨msg, rfl, rfl, ?_⟩
    have handed : (((update h rt.model reply msg).2.1.map Task.call).toList.map T.task).sum =
        ((update h rt.model reply msg).2.1.map T.cmd).getD 0 := by
      cases (update h rt.model reply msg).2.1 <;> simp [Tally.task]
    simp only [Tally.pending, List.map_append, List.sum_append, handed, channel, List.map_cons,
      List.sum_cons]
    omega
  · rename_i cmds rest channel
    cases delivered
    refine .inl ⟨rfl, rfl, ?_⟩
    simp only [Tally.pending, List.map_append, List.sum_append, Tally.calls, channel, List.map_cons,
      List.sum_cons, Tally.sent]
    omega
  · rename_i cmds rest channel
    cases delivered
    refine .inl ⟨rfl, rfl, ?_⟩
    have opened : T.task (.sequence [] cmds) = T.cmds cmds := Nat.zero_add _
    simp only [Tally.pending, List.map_append, List.sum_append, List.map_cons, List.map_nil,
      List.sum_cons, List.sum_nil, opened, channel, Tally.sent]
    omega

theorem Runtime.post_pending (T : Tally) (rt : Runtime) (msg : Msg) :
    T.pending { rt with channel := rt.channel ++ [.msg msg] } =
      T.pending rt + T.leaf (.sendEvent (some msg)) := by
  simp only [Tally.pending, List.map_append, List.map_cons, List.map_nil, List.sum_append,
    List.sum_cons, List.sum_nil, Tally.sent]
  omega

/-- What `Update` returns, to a count that holds neither a plain command nor the tick: the
next poll when handed `gdmPollDone` while conversations go on, nothing otherwise. -/
theorem update_tally (T : Tally) (plain : ∀ {c : Cmd}, c.plain = true → T.cmd c = 0)
    (tick : T.leaf .tick = 0) (h : Helpers) (m : GdmModel) (reply : Reply) (msg : Msg) :
    ((update h m reply msg).2.1.map T.cmd).getD 0 =
      if msg = .gdmPollDone ∧ m.conversationsStopped = false then T.cmd (pollGdm m reply.poll).2
      else 0 := by
  by_cases polled : msg = .gdmPollDone
  · subst polled
    cases stopped : m.conversationsStopped
    · rw [if_pos ⟨rfl, rfl⟩]
      simp only [update, stopped]
      show T.leaf .tick + (T.cmd (pollGdm m reply.poll).2 + 0) = _
      rw [tick]
      omega
    · simp [update_stopped h reply _ stopped]
  · rw [if_neg fun both => polled both.1]
    rcases returned : (update h m reply msg).2.1 with _ | c
    · rfl
    · exact plain (update_plain h m reply polled c returned)

/-- At the start a count holds what `Init`'s first poll holds, for a count that holds
neither the report of a failed hello nor the request for the UI capabilities. -/
theorem Tally.pending_start (T : Tally)
    (reported : ∀ s, T.leaf (.sendEvent (some (.pamError .credUnavail s))) = 0)
    (asked : T.leaf .requestUICapabilities = 0) (protoVersion : Int)
    (hello : Except String HelloReply) (poll : Except String (List PollEvent)) :
    T.pending (Runtime.start protoVersion hello poll) = T.cmd (pollGdm GdmModel.new poll).2 := by
  have helloNone : T.cmds (protoHello protoVersion hello).toList = 0 := by
    rcases hello with err | ⟨dataType, version⟩
    · exact reported _
    · simp only [protoHello]
      split_ifs
      · rfl
      · exact reported _
  show T.cmds ((protoHello protoVersion hello).toList ++
    [.requestUICapabilities, (pollGdm GdmModel.new poll).2]) + 0 + 0 = _
  rw [Tally.cmds_append, helloNone]
  show 0 + (T.leaf .requestUICapabilities + (T.cmd (pollGdm GdmModel.new poll).2 + 0)) + 0 + 0 = _
  rw [asked]
  omega

/-! ## 3. The rounds of the poll loop -/

/-- The rounds of the poll loop: the `gdmPollDone`s that `sendEvent`s carry. -/
def pollRounds : Tally :=
  ⟨fun
    | .sendEvent msg => if msg = some .gdmPollDone then 1 else 0
    | _ => 0⟩

/-- The rounds of the poll loop pending in the runtime. -/
def Runtime.polls (rt : Runtime) : Nat := pollRounds.pending rt

theorem polls_plain {c : Cmd} (plain : c.plain = true) : pollRounds.cmd c = 0 := by
  cases c with
  | sendEvent msg =>
    have other : msg ≠ some .gdmPollDone := by simpa [Cmd.plain] using plain
    exact if_neg other
  | emitEvent => rfl
  | _ => simp [Cmd.plain] at plain

theorem polls_forwards {cmds : List Cmd} (fw : Forwards cmds) : pollRounds.cmds cmds = 0 := by
  rw [Tally.cmds_eq]
  refine List.sum_eq_zero fun n member => ?_
  obtain ⟨c, inCmds, rfl⟩ := List.mem_map.mp member
  obtain ⟨msg, rfl, other⟩ := fw c inCmds
  exact if_neg (by simpa using other)

theorem pollRounds_gdmPollDone : pollRounds.sent (.msg .gdmPollDone) = 1 := rfl

/-- A call holds no round of the loop itself: it hands its command's on in what it returns,
and the messages GDM's answers turn into are not `gdmPollDone`. -/
theorem Cmd.call_polls (reply : Reply) (cmd : Cmd) :
    ((cmd.call reply).2.map pollRounds.sent).getD 0 = pollRounds.cmd cmd := by
  cases cmd with
  | sendEvent msg => cases msg <;> rfl
  | emitEvent event => rcases reply with ⟨_, _ | _, _, _⟩ <;> rfl
  | requestUICapabilities => rcases reply with ⟨_, _, _ | _ | _, _⟩ <;> rfl
  | changeStage stage => rcases reply with ⟨_, _, _, _ | _⟩ <;> rfl
  | tick | batch _ | sequence _ => rfl

/-- A poll holds one round of the loop, the one it puts first in its batch; none when it
failed or found an event with a missing field. -/
theorem pollGdm_polls (m : GdmModel) (poll : Except String (List PollEvent)) :
    pollRounds.cmd (pollGdm m poll).2 ≤ 1 ∧ (PollAnswered poll → pollRounds.cmd (pollGdm m poll).2 = 1) := by
  rcases poll with err | events
  · exact ⟨Nat.zero_le 1, nofun⟩
  rcases (pollEvents_outcome m [.sendEvent (some .gdmPollDone)] events).1 with
    ⟨forwards, fw, batch⟩ | ⟨⟨s, failed⟩, e, member, incomplete⟩
  · have one : pollRounds.cmd (pollGdm m (.ok events)).2 = 1 := by
      rw [pollGdm, batch]
      show pollRounds.cmds ([.sendEvent (some .gdmPollDone)] ++ forwards) = 1
      rw [Tally.cmds_append, polls_forwards fw]
      rfl
    exact ⟨one.le, fun _ => one⟩
  · have none : pollRounds.cmd (pollGdm m (.ok events)).2 = 0 := by rw [pollGdm, failed]; rfl
    exact ⟨by omega, fun answered => absurd (answered e member) (by simp [incomplete])⟩

/-- `Update` starts a round of the poll loop only for the round it ends: handed
`gdmPollDone`, it polls again unless conversations are stopped, and holds a round again when
the poll is answered; handed any other message, it starts none. -/
theorem update_polls (h : Helpers) (m : GdmModel) (reply : Reply) (msg : Msg) :
    ((update h m reply msg).2.1.map pollRounds.cmd).getD 0 ≤ pollRounds.sent (.msg msg) ∧
    (m.conversationsStopped = false → PollAnswered reply.poll →
      ((update h m reply msg).2.1.map pollRounds.cmd).getD 0 = pollRounds.sent (.msg msg)) := by
  rw [update_tally pollRounds polls_plain rfl]
  split_ifs with polled
  · obtain ⟨rfl, -⟩ := polled
    exact ⟨(pollGdm_polls m reply.poll).1, fun _ => (pollGdm_polls m reply.poll).2⟩
  · exact ⟨Nat.zero_le _, fun live _ => (if_neg fun sent => polled ⟨Option.some.inj sent, live⟩).symm⟩

/-- A step of the runtime other than the rest of the program sending `gdmPollDone` starts no
round of the loop; and while conversations go on, none is stopped and GDM answers every
poll, a step loses none either. -/
theorem Runtime.step_polls {h : Helpers} {rt rt' : Runtime} {a : Action}
    (notForged : a ≠ .post .gdmPollDone) (stepped : rt.step h a = some rt') :
    rt'.polls ≤ rt.polls ∧
      (rt.model.conversationsStopped = false → a ≠ .stop →
        (∀ reply, a = .deliver reply → PollAnswered reply.poll) →
        rt'.model.conversationsStopped = false ∧ rt'.polls = rt.polls) := by
  cases a with
  | exec i choice reply =>
    obtain ⟨model, same | ⟨cmd, -, moved⟩⟩ := Runtime.exec_pending pollRounds stepped
    · exact ⟨same.2.le, fun live _ _ => ⟨model ▸ live, same.2⟩⟩
    · have handed := Cmd.call_polls reply cmd
      have same : rt'.polls = rt.polls := by simp only [Runtime.polls]; omega
      exact ⟨same.le, fun live _ _ => ⟨model ▸ live, same⟩⟩
  | deliver reply =>
    rcases Runtime.deliver_pending pollRounds stepped with ⟨model, -, same⟩ | ⟨msg, model, -, moved⟩
    · exact ⟨same.le, fun live _ _ => ⟨model ▸ live, same⟩⟩
    · have started := update_polls h rt.model reply msg
      refine ⟨by simp only [Runtime.polls]; omega, fun live _ answered => ⟨?_, ?_⟩⟩
      · rw [model, update_conversationsStopped, live]
      · have kept := started.2 live (answered reply rfl)
        simp only [Runtime.polls]
        omega
  | post msg =>
    cases stepped
    have other : pollRounds.leaf (.sendEvent (some msg)) = 0 :=
      if_neg fun forged => notForged (by rw [Option.some.inj forged])
    have posted := Runtime.post_pending pollRounds rt msg
    have same : ({ rt with channel := rt.channel ++ [.msg msg] } : Runtime).polls = rt.polls := by
      simp only [Runtime.polls]
      omega
    exact ⟨same.le, fun live _ _ => ⟨live, same⟩⟩
  | stop => exact ⟨by cases stepped; rfl, fun _ notStop _ => absurd rfl notStop⟩

theorem Runtime.run_polls {h : Helpers} {rt rt' : Runtime} {actions : List Action}
    (notForged : ∀ a ∈ actions, a ≠ .post .gdmPollDone) (ran : rt.run h actions = some rt') :
    rt'.polls ≤ rt.polls ∧
      (rt.model.conversationsStopped = false → (∀ a ∈ actions, a ≠ .stop) →
        (∀ reply, .deliver reply ∈ actions → PollAnswered reply.poll) → rt'.polls = rt.polls) := by
  induction actions generalizing rt with
  | nil =>
    cases ran
    exact ⟨le_rfl, fun _ _ _ => rfl⟩
  | cons a rest ih =>
    obtain ⟨mid, stepped, ran⟩ := Option.bind_eq_some.mp ran
    have step := Runtime.step_polls (notForged a (List.mem_cons_self a rest)) stepped
    have later := ih (fun b member => notForged b (List.mem_cons_of_mem a member)) ran
    refine ⟨later.1.trans step.1, fun live neverStopped answered => ?_⟩
    obtain ⟨stillLive, same⟩ := step.2 live (neverStopped a (List.mem_cons_self a rest))
      fun reply delivered => answered reply (delivered ▸ List.mem_cons_self _ rest)
    exact (later.2 stillLive (fun b member => neverStopped b (List.mem_cons_of_mem a member))
      fun reply member => answered reply (List.mem_cons_of_mem a member)).trans same

/-- `Init` holds one round of the loop, the one of its first poll, unless that poll failed or
found an event with a missing field; and it does not stop the conversations. -/
theorem start_polls (protoVersion : Int) (hello : Except String HelloReply)
    (poll : Except String (List PollEvent)) :
    (Runtime.start protoVersion hello poll).model.conversationsStopped = false ∧
    (Runtime.start protoVersion hello poll).polls ≤ 1 ∧
      (PollAnswered poll → (Runtime.start protoVersion hello poll).polls = 1) := by
  have live : (pollGdm GdmModel.new poll).1.conversationsStopped = false := by
    rcases poll with _ | events
    · rfl
    · exact (pollEvents_outcome _ _ _).2
  rw [Runtime.polls, pollRounds.pending_start (fun _ => rfl) rfl]
  exact ⟨live, pollGdm_polls GdmModel.new poll⟩

/-! ## 4. The poll loop under every schedule -/

/-- Whatever GDM answers, whatever the schedule of the goroutines, and whatever messages the
rest of the program sends, none of them `gdmPollDone`: at most one round of the poll loop is
ever pending. The loop never forks. -/
theorem poll_loop_single (h : Helpers) (protoVersion : Int) (hello : Except String HelloReply)
    (poll : Except String (List PollEvent)) {actions : List Action} {rt : Runtime}
    (notForged : ∀ a ∈ actions, a ≠ .post .gdmPollDone)
    (ran : (Runtime.start protoVersion hello poll).run h actions = some rt) :
    rt.polls ≤ 1 :=
  (Runtime.run_polls notForged ran).1.trans (start_polls protoVersion hello poll).2.1

/-- The run of `poll_messages_reordered`, with a message of the rest of the program. -/
theorem poll_loop_single_reordered :
    ∃ rt, (Runtime.start 1 (.ok ⟨"hello", some 1⟩)
        (.ok [.userSelected "alice", .brokerSelected (some "local")])).run (goHelpers fun _ => true)
        [.exec 0 0 quietReply, .deliver quietReply, .exec 0 0 quietReply, .exec 0 0 quietReply,
          .post .startAuthentication, .exec 0 2 quietReply, .exec 0 1 quietReply,
          .deliver quietReply, .deliver quietReply, .deliver quietReply] = some rt ∧
      rt.polls ≤ 1 := by
  refine ⟨?rt, ?ran, poll_loop_single _ 1 _ _ ?notForged ?ran⟩
  case ran => exact rfl
  case notForged => simp

/-- While conversations go on and GDM answers every poll, the first included, with events
whose fields are all set, exactly one round of the poll loop stays pending, whatever the
schedule of the goroutines and whatever else the program sends. The loop is never lost. -/
theorem poll_loop_kept (h : Helpers) (protoVersion : Int) (hello : Except String HelloReply)
    {events : List PollEvent} (complete : ∀ e ∈ events, e.complete = true)
    {actions : List Action} {rt : Runtime}
    (notForged : ∀ a ∈ actions, a ≠ .post .gdmPollDone) (neverStopped : ∀ a ∈ actions, a ≠ .stop)
    (answered : ∀ reply, .deliver reply ∈ actions → PollAnswered reply.poll)
    (ran : (Runtime.start protoVersion hello (.ok events)).run h actions = some rt) :
    rt.polls = 1 :=
  ((Runtime.run_polls notForged ran).2 (start_polls protoVersion hello _).1 neverStopped
    answered).trans ((start_polls protoVersion hello (.ok events)).2.2 complete)

/-- Two rounds of the loop, each of whose polls finds no event. -/
theorem poll_loop_kept_quiet :
    ∃ rt, (Runtime.start 1 (.ok ⟨"hello", some 1⟩) (.ok [])).run (goHelpers fun _ => true)
        [.exec 0 0 quietReply, .deliver quietReply, .exec 0 0 quietReply, .exec 0 0 quietReply,
          .exec 0 0 quietReply, .deliver quietReply, .deliver quietReply, .exec 1 0 quietReply,
          .deliver quietReply, .exec 1 0 quietReply, .exec 1 0 quietReply, .exec 1 0 quietReply,
          .deliver quietReply] = some rt ∧
      rt.polls = 1 := by
  refine ⟨?rt, ?ran, poll_loop_kept _ 1 _ ?complete ?notForged ?neverStopped ?answered ?ran⟩
  case ran => exact rfl
  case complete => simp
  case notForged => simp
  case neverStopped => simp
  case answered => simp [quietReply, PollAnswered]

/-! ## 5. The `AuthEvent`s GDM is sent -/

/-- An invariant of every step is one of every run. -/
theorem Runtime.run_invariant {h : Helpers} (P : Runtime → Prop)
    (step : ∀ {rt rt' : Runtime} {a : Action}, P rt → rt.step h a = some rt' → P rt')
    {actions : List Action} {rt rt' : Runtime} (holds : P rt) (ran : rt.run h actions = some rt') :
    P rt' := by
  induction actions generalizing rt with
  | nil => cases ran; exact holds
  | cons a rest ih =>
    obtain ⟨mid, stepped, ran⟩ := Option.bind_eq_some.mp ran
    exact ih (step holds stepped) ran

def Conversation.isAuthEvent : Conversation → Bool
  | .emit event => event.isAuthEvent
  | _ => false

/-- The `AuthEvent`s pending commands will emit when called. -/
def authEmits : Tally :=
  ⟨fun
    | .emitEvent event => if event.isAuthEvent then 1 else 0
    | _ => 0⟩

theorem authEmits_plain {c : Cmd} (plain : c.plain = true) : authEmits.cmd c = 0 := by
  cases c with
  | sendEvent => rfl
  | emitEvent event => exact if_neg (by simpa [Cmd.plain] using plain)
  | _ => simp [Cmd.plain] at plain

theorem authEmits_forwards {cmds : List Cmd} (fw : Forwards cmds) : authEmits.cmds cmds = 0 := by
  rw [Tally.cmds_eq]
  refine List.sum_eq_zero fun n member => ?_
  obtain ⟨c, inCmds, rfl⟩ := List.mem_map.mp member
  obtain ⟨msg, rfl, -⟩ := fw c inCmds
  rfl

/-- A call holds the conversation of the `AuthEvent` its command emits, if any, and hands on
the others. -/
theorem Cmd.call_authEmits (reply : Reply) (cmd : Cmd) :
    authEmits.cmd cmd = ((cmd.call reply).2.map authEmits.sent).getD 0 +
      if (cmd.call reply).1.any Conversation.isAuthEvent then 1 else 0 := by
  cases cmd with
  | sendEvent msg => cases msg <;> rfl
  | emitEvent event => cases event <;> rcases reply with ⟨_, _ | _, _, _⟩ <;> rfl
  | requestUICapabilities => rcases reply with ⟨_, _, _ | _ | _, _⟩ <;> rfl
  | changeStage stage => rcases reply with ⟨_, _, _, _ | _⟩ <;> rfl
  | tick | batch _ | sequence _ => rfl

/-- A poll's command emits no `AuthEvent`: it only sends messages. -/
theorem pollGdm_authEmits (m : GdmModel) (poll : Except String (List PollEvent)) :
    authEmits.cmd (pollGdm m poll).2 = 0 := by
  rcases poll with err | events
  · rfl
  rcases (pollEvents_outcome m [.sendEvent (some .gdmPollDone)] events).1 with
    ⟨forwards, fw, batch⟩ | ⟨⟨s, failed⟩, -⟩
  · rw [pollGdm, batch]
    show authEmits.cmds ([.sendEvent (some .gdmPollDone)] ++ forwards) = 0
    rw [Tally.cmds_append, authEmits_forwards fw]
    rfl
  · rw [pollGdm, failed]
    rfl

/-- `Update` returns no command that emits an `AuthEvent`: it holds those conversations
itself. -/
theorem update_authEmits (h : Helpers) (m : GdmModel) (reply : Reply) (msg : Msg) :
    ((update h m reply msg).2.1.map authEmits.cmd).getD 0 = 0 := by
  rw [update_tally authEmits authEmits_plain rfl]
  split_ifs
  · exact pollGdm_authEmits m reply.poll
  · rfl

/-- The `AuthEvent`s `Update` sends GDM carry an access value a broker may answer: one it
recognised, or the cancellation. -/
theorem update_authEvent_known (h : Helpers) (m : GdmModel) (reply : Reply) (msg : Msg)
    {access authMsg : List UInt8}
    (member : .emit (.authEvent access authMsg) ∈ (update h m reply msg).2.2) :
    access ∈ knownAccess := by
  simp only [knownAccess, List.mem_cons, List.not_mem_nil, or_false]
  unfold update at member
  split at member
  · simp at member
  cases msg <;> simp at member
  case startAuthentication => split_ifs at member <;> simp at member
  case isAuthenticatedResultReceived access' data =>
    split at member
    · simp at member
    · split_ifs at member with cancelled known
      · simp at member
      · simp only [List.mem_singleton, Conversation.emit.injEq, Event.authEvent.injEq] at member
        rw [member.1]
        rcases known with granted | denied | retry | next
        exacts [.inl granted, .inr (.inl denied), .inr (.inr (.inr (.inl retry))),
          .inr (.inr (.inr (.inr next)))]
      · simp at member
  case isAuthenticatedCancelled => exact .inr (.inr (.inl member.1))

/-- What the runtime keeps about `AuthEvent`s. -/
structure AuthEventsKnown (rt : Runtime) : Prop where
  /-- Every `AuthEvent` GDM was sent so far carried an access value a broker may answer. -/
  sent : ∀ access msg stopped, (.emit (.authEvent access msg), stopped) ∈ rt.conversations →
    access ∈ knownAccess
  /-- No pending command will emit one. -/
  none_pending : authEmits.pending rt = 0

theorem authEventsKnown_start (protoVersion : Int) (hello : Except String HelloReply)
    (poll : Except String (List PollEvent)) :
    AuthEventsKnown (Runtime.start protoVersion hello poll) where
  sent access msg stopped member := by
    simp [Runtime.start, init] at member
  none_pending :=
    (authEmits.pending_start (fun _ => rfl) rfl protoVersion hello poll).trans
      (pollGdm_authEmits _ poll)

theorem AuthEventsKnown.step {h : Helpers} {rt rt' : Runtime} {a : Action}
    (known : AuthEventsKnown rt) (stepped : rt.step h a = some rt') : AuthEventsKnown rt' := by
  have none := known.none_pending
  cases a with
  | exec i choice reply =>
    obtain ⟨-, ⟨conversations, same⟩ | ⟨cmd, conversations, moved⟩⟩ :=
      Runtime.exec_pending authEmits stepped
    · exact ⟨conversations ▸ known.sent, same.trans none⟩
    have called := Cmd.call_authEmits reply cmd
    refine ⟨fun access msg stopped member => ?_, by omega⟩
    rw [conversations, List.mem_append] at member
    rcases member with old | new
    · exact known.sent _ _ _ old
    · rcases held : (cmd.call reply).1 with _ | c
      · simp [held] at new
      · simp only [held, Option.map_some', Option.toList_some, List.mem_singleton,
          Prod.mk.injEq] at new
        obtain ⟨rfl, -⟩ := new
        simp only [held, Option.any_some, Conversation.isAuthEvent, Event.isAuthEvent,
          if_true] at called
        omega
  | deliver reply =>
    rcases Runtime.deliver_pending authEmits stepped with
      ⟨-, conversations, same⟩ | ⟨msg, -, conversations, moved⟩
    · exact ⟨conversations ▸ known.sent, same.trans none⟩
    have returned := update_authEmits h rt.model reply msg
    refine ⟨fun access authMsg stopped member => ?_, by omega⟩
    rw [conversations, List.mem_append] at member
    rcases member with old | new
    · exact known.sent _ _ _ old
    · obtain ⟨c, held, paired⟩ := List.mem_map.mp new
      obtain ⟨rfl, -⟩ := Prod.mk.inj paired
      exact update_authEvent_known h rt.model reply msg held
  | post msg =>
    cases stepped
    exact ⟨known.sent, (Runtime.post_pending authEmits rt msg).trans none⟩
  | stop =>
    cases stepped
    exact ⟨known.sent, none⟩

/-- Whatever GDM answers, whatever the brokers answer and the rest of the program sends,
and under every schedule of the goroutines: every `AuthEvent` the PAM module sends GDM
carries `granted`, `denied`, `cancelled`, `retry` or `next`. An access value a broker
answers that is none of these never reaches GDM. `Update` sends them itself: no command
it returns, nor any command of a poll, emits one. -/
theorem authEvents_known_access (h : Helpers) (protoVersion : Int)
    (hello : Except String HelloReply) (poll : Except String (List PollEvent))
    {actions : List Action} {rt : Runtime}
    (ran : (Runtime.start protoVersion hello poll).run h actions = some rt) :
    (∀ access msg stopped, (.emit (.authEvent access msg), stopped) ∈ rt.conversations →
      access ∈ knownAccess) ∧
    (∀ m reply msg, ((update h m reply msg).2.1.map authEmits.cmd).getD 0 = 0) ∧
    ∀ m poll', authEmits.cmd (pollGdm m poll').2 = 0 :=
  ⟨(Runtime.run_invariant AuthEventsKnown AuthEventsKnown.step
    (authEventsKnown_start protoVersion hello poll) ran).sent, update_authEmits h, pollGdm_authEmits⟩

/-- The rest of the program cancels the authentication, and GDM is sent the cancellation. -/
theorem authEvents_known_cancelled :
    ∃ rt, (Runtime.start 1 (.ok ⟨"hello", some 1⟩) (.ok [])).run (goHelpers fun _ => true)
        [.post (.isAuthenticatedCancelled []), .deliver quietReply] = some rt ∧
      (∀ access msg stopped, (.emit (.authEvent access msg), stopped) ∈ rt.conversations →
        access ∈ knownAccess) ∧
      (∀ m reply msg,
        ((update (goHelpers fun _ => true) m reply msg).2.1.map authEmits.cmd).getD 0 = 0) ∧
      ∀ m poll', authEmits.cmd (pollGdm m poll').2 = 0 := by
  refine ⟨?rt, ?ran, authEvents_known_access _ 1 _ _ ?ran⟩
  case ran => exact rfl

end Authd.Gdm
