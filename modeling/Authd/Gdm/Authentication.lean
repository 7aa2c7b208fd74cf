import Authd.Gdm.Model

/-!
# The authentication handshake with GDM

`waitingAuth` is set when `Update` accepts a `startAuthentication`, and reset
when a poll forwards an `IsAuthenticatedRequested` event or when `Update`
handles a cancellation. A poll forwards an authentication request only while
`waitingAuth` is set, and resets it as it does so; so whatever messages `Update`
is handed and whatever GDM answers to the polls, forwarded requests and
accepted starts alternate.

Cancellations are not guarded the same way: a poll forwards every
`IsAuthenticatedCancelled` event, and every `StageChanged` event that leaves the
challenge stage, while `waitingAuth` is set, and leaves `waitingAuth` set; and
`Update` emits a cancellation to GDM for every `isAuthenticatedCancelled` it is
handed.

Results:
* `requests_alternate_with_starts`: in every run, from `Init` on, no request is
  forwarded before the first accepted start, two forwarded requests have an
  accepted start between them, and a start handled while one is pending emits
  nothing;
* `cancellation_forwarded_twice`: between two accepted starts, one poll
  answered by a cancellation and a stage change forwards two cancellations, and
  `Update` emits both to GDM.
-/

namespace Authd.Gdm

mutual
/-- The messages the `sendEvent` commands of a command carry, through its batches and
sequences. -/
def Cmd.sent : Cmd → List Msg
  | .sendEvent msg => msg.toList
  | .batch cmds => Cmd.sentList cmds
  | .sequence cmds => Cmd.sentList cmds
  | _ => []

def Cmd.sentList : List Cmd → List Msg
  | [] => []
  | c :: cs => c.sent ++ Cmd.sentList cs
end

def Msg.isRequested : Msg → Bool
  | .isAuthenticatedRequested _ => true
  | _ => false

/-- How many authentication requests a command forwards. -/
def Cmd.requests (c : Cmd) : Nat := c.sent.countP Msg.isRequested

/-- The requests a list of commands forwards. -/
def requestsIn (commands : List Cmd) : Nat := (Cmd.sentList commands).countP Msg.isRequested

theorem sentList_append (a b : List Cmd) :
    Cmd.sentList (a ++ b) = Cmd.sentList a ++ Cmd.sentList b := by
  induction a with
  | nil => rfl
  | cons c cs ih => simp [Cmd.sentList, ih]

@[simp] theorem requestsIn_nil : requestsIn [] = 0 := rfl

@[simp] theorem requestsIn_cons (c : Cmd) (cs : List Cmd) :
    requestsIn (c :: cs) = c.requests + requestsIn cs := by
  simp [requestsIn, Cmd.requests, Cmd.sentList]

@[simp] theorem requestsIn_append (a b : List Cmd) :
    requestsIn (a ++ b) = requestsIn a + requestsIn b := by
  simp [requestsIn, sentList_append]

@[simp] theorem Cmd.requests_sendEvent (msg : Option Msg) :
    (Cmd.sendEvent msg).requests = msg.toList.countP Msg.isRequested := rfl

@[simp] theorem Cmd.requests_emitEvent (event : Event) : (Cmd.emitEvent event).requests = 0 := rfl

@[simp] theorem Cmd.requests_requestUICapabilities : Cmd.requestUICapabilities.requests = 0 := rfl

@[simp] theorem Cmd.requests_tick : Cmd.tick.requests = 0 := rfl

@[simp] theorem Cmd.requests_batch (cmds : List Cmd) : (Cmd.batch cmds).requests = requestsIn cmds :=
  rfl

@[simp] theorem Cmd.requests_sequence (cmds : List Cmd) :
    (Cmd.sequence cmds).requests = requestsIn cmds := rfl

@[simp] theorem emitEventSync_requests (emitResult : Option String) :
    (emitEventSync emitResult).toList.countP Msg.isRequested = 0 := by
  cases emitResult <;> rfl

/-! ## One poll -/

/-- The loop of `pollGdm` forwards at most one request: then `waitingAuth` was set, and
the loop resets it. Otherwise it never sets `waitingAuth`. -/
theorem pollEvents_requests (m : GdmModel) (commands : List Cmd) (events : List PollEvent) :
    ((pollEvents m commands events).2.requests ≤ requestsIn commands ∧
      ((pollEvents m commands events).1.waitingAuth → m.waitingAuth)) ∨
    ((pollEvents m commands events).2.requests ≤ requestsIn commands + 1 ∧
      m.waitingAuth ∧ (pollEvents m commands events).1.waitingAuth = false) := by
  induction m, commands, events using pollEvents.induct with
  | case1 => exact .inl ⟨by simp [pollEvents], id⟩
  | case3 | case5 | case12 =>
    -- a nil field: the poll drops what it collected and reports the error
    exact .inl ⟨by simp [pollEvents, Msg.isRequested], by simp [pollEvents]⟩
  | case2 _ _ _ _ ih | case4 _ _ _ _ ih | case6 _ _ _ _ ih | case10 _ _ _ ih | case11 _ _ _ ih
  | case13 _ _ _ _ ih =>
    -- an event that forwards no request
    simpa [pollEvents, selectAuthMode, apply_ite requestsIn, Msg.isRequested] using ih
  | case7 _ _ _ _ notWaiting ih => simpa [pollEvents, notWaiting] using ih
  | case8 m commands rest waiting item ih =>
    -- the request is forwarded and `waitingAuth` reset, so the rest of the loop forwards none
    simp only [Bool.not_eq_true', Bool.not_eq_false] at waiting
    rcases ih with ⟨fewer, stays⟩ | ⟨_, wasWaiting, _⟩
    · exact .inr ⟨by simpa [pollEvents, waiting, Msg.isRequested] using fewer,
        waiting, by simpa [pollEvents, waiting] using stays⟩
    · simp at wasWaiting
  | case9 m commands request rest waiting malformed =>
    -- a request without data: `waitingAuth` is reset and the poll reports the error
    simp only [Bool.not_eq_true', Bool.not_eq_false] at waiting
    have reset : (pollEvents m commands (.isAuthenticatedRequested request :: rest)) =
        ({ m with waitingAuth := false },
          .sendEvent (some (.pamError .system "missing auth requested"))) := by
      rcases request with _ | _ | item
      · simp [pollEvents, waiting]
      · simp [pollEvents, waiting]
      · exact absurd rfl (malformed item)
    exact .inr ⟨by simp [reset, Msg.isRequested], waiting, by simp [reset]⟩
  | case14 _ _ _ ih => simpa [pollEvents] using ih

/-- A poll forwards no request and does not set `waitingAuth`; or, while `waitingAuth` is
set, it forwards at most one request and resets the flag. -/
theorem pollGdm_requests (m : GdmModel) (poll : Except String (List PollEvent)) :
    ((pollGdm m poll).2.requests = 0 ∧ ((pollGdm m poll).1.waitingAuth → m.waitingAuth)) ∨
    ((pollGdm m poll).2.requests ≤ 1 ∧ m.waitingAuth ∧ (pollGdm m poll).1.waitingAuth = false) := by
  cases poll with
  | error err => exact .inl ⟨by simp [pollGdm, Msg.isRequested], by simp [pollGdm]⟩
  | ok events =>
    simpa [pollGdm, Msg.isRequested] using pollEvents_requests m [.sendEvent (some .gdmPollDone)] events

/-! ## The handshake over a run -/

/-- A step of the handshake. -/
inductive AuthMark
  /-- `Update` accepted a `startAuthentication`: it emitted `StartAuthentication` to GDM. -/
  | accepted
  /-- A poll forwarded an `IsAuthenticatedRequested` event to the program. -/
  | forwarded
deriving DecidableEq, Repr

/-- The handshake steps of one call of `Update` or `Init`, from its command and the
conversations it held: the start it accepted, then the requests its command forwards. -/
def handshake (cmd : Option Cmd) (convs : List Conversation) : List AuthMark :=
  (if .emit .startAuthentication ∈ convs then [.accepted] else []) ++
    List.replicate ((cmd.map Cmd.requests).getD 0) .forwarded

/-- The law of the handshake over the steps of a run: no request is forwarded before the
first accepted start, and two forwarded requests have an accepted start between them. -/
def Alternates (marks : List AuthMark) : Prop :=
  (∀ i : Nat, marks[i]? = some AuthMark.forwarded → ∃ j < i, marks[j]? = some AuthMark.accepted) ∧
  ∀ i k : Nat, i < k → marks[i]? = some AuthMark.forwarded → marks[k]? = some AuthMark.forwarded →
    ∃ j : Nat, i < j ∧ j < k ∧ marks[j]? = some AuthMark.accepted

/-- The invariant of a run: the law holds so far, and while `waitingAuth` is set the last
step is an accepted start. -/
structure Armed (marks : List AuthMark) (m : GdmModel) : Prop where
  alternates : Alternates marks
  last : m.waitingAuth → marks.getLast? = some .accepted

/-- A start may always be appended; a request only right after a start. -/
theorem alternates_snoc {marks : List AuthMark} {mark : AuthMark} (alternates : Alternates marks)
    (armed : mark = .forwarded → marks.getLast? = some .accepted) :
    Alternates (marks ++ [mark]) := by
  obtain ⟨first, between⟩ := alternates
  have old : ∀ i < marks.length, (marks ++ [mark])[i]? = marks[i]? :=
    fun i hi => List.getElem?_append_left hi
  have new : ∀ i, marks.length ≤ i → (marks ++ [mark])[i]? = some AuthMark.forwarded →
      i = marks.length ∧ 0 < marks.length ∧ marks[marks.length - 1]? = some AuthMark.accepted := by
    intro i hi found
    rw [List.getElem?_append_right hi] at found
    obtain ⟨atEnd, rfl⟩ : i - marks.length = 0 ∧ mark = .forwarded := by
      cases h : i - marks.length <;> simp_all
    have last := armed rfl
    rw [List.getLast?_eq_getElem?] at last
    exact ⟨by omega, List.length_pos.mpr (by rintro rfl; simp at last), last⟩
  constructor
  · intro i found
    by_cases inside : i < marks.length
    · obtain ⟨j, before, start⟩ := first i (by rwa [old i inside] at found)
      exact ⟨j, before, by rwa [old j (by omega)]⟩
    · obtain ⟨rfl, nonempty, start⟩ := new i (by omega) found
      exact ⟨marks.length - 1, by omega, by rwa [old _ (by omega)]⟩
  · intro i k earlier foundI foundK
    by_cases inside : k < marks.length
    · rw [old i (by omega)] at foundI
      rw [old k inside] at foundK
      obtain ⟨j, after, before, start⟩ := between i k earlier foundI foundK
      exact ⟨j, after, before, by rwa [old j (by omega)]⟩
    · obtain ⟨rfl, nonempty, start⟩ := new k (by omega) foundK
      rw [old i earlier] at foundI
      have : i ≠ marks.length - 1 := by rintro rfl; simp [foundI] at start
      exact ⟨marks.length - 1, by omega, by omega, by rwa [old _ (by omega)]⟩

theorem Armed.poll {marks : List AuthMark} {m : GdmModel} (armed : Armed marks m)
    (poll : Except String (List PollEvent)) :
    Armed (marks ++ List.replicate (pollGdm m poll).2.requests .forwarded) (pollGdm m poll).1 := by
  rcases pollGdm_requests m poll with ⟨none, stays⟩ | ⟨atMostOne, waiting, reset⟩
  · rw [none, List.replicate_zero, List.append_nil]
    exact ⟨armed.alternates, fun w => armed.last (stays w)⟩
  · refine ⟨?_, by simp [reset]⟩
    rcases Nat.le_one_iff_eq_zero_or_eq_one.mp atMostOne with zero | one
    · simpa [zero] using armed.alternates
    · rw [one]
      exact alternates_snoc armed.alternates fun _ => armed.last waiting

/-- What one call of `Update` does to the handshake: it polls; or it accepts a start, from a
model whose `waitingAuth` is false, and sets the flag; or it takes no step of the handshake
and does not set `waitingAuth`. -/
theorem update_cases (h : Helpers) (m : GdmModel) (reply : Reply) (msg : Msg) :
    update h m reply msg =
        ((pollGdm m reply.poll).1, some (.sequence [.tick, (pollGdm m reply.poll).2]), [.poll]) ∨
    (m.waitingAuth = false ∧ (update h m reply msg).1.waitingAuth = true ∧
      handshake (update h m reply msg).2.1 (update h m reply msg).2.2 = [.accepted]) ∨
    (handshake (update h m reply msg).2.1 (update h m reply msg).2.2 = [] ∧
      ((update h m reply msg).1.waitingAuth → m.waitingAuth)) := by
  cases stopped : m.conversationsStopped
  case true => exact .inr (.inr ⟨by simp [update, stopped, handshake], by simp [update, stopped]⟩)
  cases msg with
  | gdmPollDone => exact .inl (by simp [update, stopped])
  | startAuthentication =>
    cases waiting : m.waitingAuth
    · exact .inr (.inl ⟨rfl, by simp [update, stopped, waiting, handshake]⟩)
    · exact .inr (.inr ⟨by simp [update, stopped, waiting, handshake],
        by simp [update, stopped, waiting]⟩)
  | isAuthenticatedResultReceived access data =>
    refine .inr (.inr ?_)
    simp only [update, stopped, Bool.false_eq_true, ↓reduceIte]
    split
    · simp [handshake, Msg.isRequested]
    · split_ifs <;> simp [handshake, Msg.isRequested]
  | _ => exact .inr (.inr ⟨by simp [update, stopped, handshake], by simp [update, stopped]⟩)

theorem Armed.update {marks : List AuthMark} {m : GdmModel} (armed : Armed marks m)
    (h : Helpers) (reply : Reply) (msg : Msg) :
    Armed (marks ++ handshake (update h m reply msg).2.1 (update h m reply msg).2.2)
      (update h m reply msg).1 := by
  rcases update_cases h m reply msg with polled | ⟨-, started, accepted⟩ | ⟨none, stays⟩
  · rw [polled]
    simpa [handshake] using armed.poll reply.poll
  · rw [accepted]
    exact ⟨alternates_snoc armed.alternates (by simp), fun _ => by simp⟩
  · rw [none, List.append_nil]
    exact ⟨armed.alternates, fun w => armed.last (stays w)⟩

/-- A run of `Update` over `inputs`, each message with the replies GDM gives to the
conversations of its call: the command and the conversations of each call, the model each
call returns handed to the next. -/
def runUpdate (h : Helpers) : GdmModel → List (Reply × Msg) → List (Option Cmd × List Conversation)
  | _, [] => []
  | m, (reply, msg) :: rest => (update h m reply msg).2 :: runUpdate h (update h m reply msg).1 rest

theorem Armed.run {marks : List AuthMark} {m : GdmModel} (armed : Armed marks m) (h : Helpers)
    (inputs : List (Reply × Msg)) :
    Alternates (marks ++ (runUpdate h m inputs).flatMap fun out => handshake out.1 out.2) := by
  induction inputs generalizing marks m with
  | nil => simpa [runUpdate] using armed.alternates
  | cons input rest ih =>
    simpa [runUpdate] using ih (armed.update h input.1 input.2)

/-- A new `gdmModel`: both flags false, Go's zero values. -/
def GdmModel.new : GdmModel := ⟨false, false⟩

/-- The handshake steps of a run of `gdmModel`: `Init` on a new model, then `Update` on each
of `inputs`. -/
def runHandshake (h : Helpers) (protoVersion : Int) (hello : Except String HelloReply)
    (poll : Except String (List PollEvent)) (inputs : List (Reply × Msg)) : List AuthMark :=
  let (m, cmd, convs) := init GdmModel.new protoVersion hello poll
  handshake (some cmd) convs ++ (runUpdate h m inputs).flatMap fun out => handshake out.1 out.2

theorem protoHello_requests (protoVersion : Int) (hello : Except String HelloReply) :
    requestsIn (protoHello protoVersion hello).toList = 0 := by
  rcases hello with _ | ⟨dataType, version⟩
  · simp [protoHello, Msg.isRequested]
  · simp only [protoHello]
    split_ifs <;> simp [Msg.isRequested]

theorem armed_init (protoVersion : Int) (hello : Except String HelloReply)
    (poll : Except String (List PollEvent)) :
    Armed (handshake (some (init GdmModel.new protoVersion hello poll).2.1)
      (init GdmModel.new protoVersion hello poll).2.2) (init GdmModel.new protoVersion hello poll).1 := by
  have fresh : Armed [] GdmModel.new := ⟨⟨by simp, by simp⟩, by simp [GdmModel.new]⟩
  simpa [init, handshake, protoHello_requests] using fresh.poll poll

theorem requests_alternate_with_starts (h : Helpers) (protoVersion : Int)
    (hello : Except String HelloReply) (poll : Except String (List PollEvent))
    (inputs : List (Reply × Msg)) :
    Alternates (runHandshake h protoVersion hello poll inputs) ∧
    ∀ m reply, m.waitingAuth = true → update h m reply .startAuthentication = (m, none, []) :=
  ⟨(armed_init protoVersion hello poll).run h inputs, fun m reply waiting => by
    simp [update, waiting]⟩

/-! ## Cancellations -/

/-- GDM's replies in the run below: every poll is answered by a cancellation and a stage
change back to broker selection, and every conversation goes through. -/
def cancelledReply : Reply :=
  ⟨.ok [.isAuthenticatedCancelled, .stageChanged (some .brokerSelection)], none, .ok none, none⟩

/-- A start is accepted; the next poll forwards two cancellations for it, one for the
`IsAuthenticatedCancelled` event and one for the stage change; `Update` emits a cancellation to
GDM for each; only then is the next start accepted. -/
theorem cancellation_forwarded_twice (h : Helpers) :
    runUpdate h GdmModel.new
      [(cancelledReply, .startAuthentication), (cancelledReply, .gdmPollDone),
        (cancelledReply, .isAuthenticatedCancelled []),
        (cancelledReply, .isAuthenticatedCancelled []), (cancelledReply, .startAuthentication)] =
      [(some (.sendEvent none), [.emit .startAuthentication]),
        (some (.sequence [.tick, .batch [.sendEvent (some .gdmPollDone),
          .sendEvent (some (.isAuthenticatedCancelled [])),
          .sendEvent (some (.isAuthenticatedCancelled [])),
          .sendEvent (some (.changeStage .brokerSelection))]]), [.poll]),
        (some (.sendEvent none), [.emit (.authEvent authCancelled [])]),
        (some (.sendEvent none), [.emit (.authEvent authCancelled [])]),
        (some (.sendEvent none), [.emit .startAuthentication])] :=
  rfl

end Authd.Gdm
