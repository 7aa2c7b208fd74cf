import Authd.Users.Cleanup

/-!
# The manager and its cleanup routine, running together

The NSS and PAM services call the manager while its cleanup routine runs. A read that
finds the database corrupted, or an `UpdateUser` whose write does, calls
`requestClearDatabase`: it writes the `.corrupted` marker, then offers a request on the
unbuffered channel `doClear`. The routine takes the offer while it waits in its
`select`, and clears the database; otherwise the offer is dropped after 10 ms. The
routine also sweeps expired users on every interval, until `Stop` ends it and closes
the cache.

The marker is a file: `os.WriteFile` makes it and `os.Remove` removes it, and a failure
of either only logs. How they end is an input of the step that makes them.

A step here is a whole request, a whole turn of the routine, or the timeout of an
offer; the states inside a clear or a sweep are not modelled. `Service.offered` counts
the requesters still blocked on `doClear`.

What a step does is said once: to the manager (`Manager.Moves`), it appends calls, sets
the marker only on a request to clear, moves the marker as the calls say when its file
operations succeed (`markerAfter`), and leaves `UserByName` as it was for every name no
call touches (`Call.touches`); to the service (`Service.Moves`), it also keeps the
options, takes an offer for every clear that goes through, and sweeps with the options'
cutoff.

Results:
1. `marker_follows_requests`: over every run, the marker is set at the end only if it was
   set before or a clear was requested; and when the marker's writes and removals
   succeed, it is set exactly when a clear was requested after the last clear that went
   through, or, with neither, when it was set before the run;
2. `clears_only_requested`: from the start, the routine's clears that go through are
   never more than the requests to clear: the database is never wiped unasked;
3. `pending_clear_done_at_restart`: when the marker's writes and removals succeed, a
   clear requested during a run with none gone through after it is done by the next
   `NewManager` on what the run left, before anything else;
4. `sweeps_keep_start_cutoff`: every sweep of a run, whatever the requests between
   them, uses the cutoff `NewManager` computed at the start;
5. `lookups_stay`: over every run, `UserByName` answers for a name as before unless
   `UpdateUser` wrote that user, a sweep removed it, a clear went through, or `Stop`
   closed the cache.
-/

namespace Authd.Users

open Cache

/-! ## 1. The marker -/

/-- The `.corrupted` marker after the calls `calls`, from `marked` before them, when its
writes and removals succeed: a request to clear writes it, a clear that goes through
removes it, no other call touches it. -/
def markerAfter (marked : Bool) : List Call → Bool
  | [] => marked
  | .clearRequested :: rest => markerAfter true rest
  | .localGroupsClean :: rest => markerAfter false rest
  | _ :: rest => markerAfter marked rest

theorem markerAfter_append (marked : Bool) (calls more : List Call) :
    markerAfter marked (calls ++ more) = markerAfter (markerAfter marked calls) more := by
  induction calls generalizing marked with
  | nil => rfl
  | cons c calls ih => cases c <;> exact ih _

/-- Calls that neither request a clear nor clear leave the marker as it is. -/
theorem markerAfter_quiet (marked : Bool) {calls : List Call}
    (quiet : ∀ c ∈ calls, c ≠ .clearRequested ∧ c ≠ .localGroupsClean) :
    markerAfter marked calls = marked := by
  induction calls with
  | nil => rfl
  | cons c calls ih =>
    have rest := ih fun c' member => quiet c' (List.mem_cons_of_mem c member)
    obtain ⟨notRequest, notClear⟩ := quiet c (List.mem_cons_self c calls)
    cases c <;> first | exact rest | exact absurd rfl notRequest | exact absurd rfl notClear

/-- A request to clear with no clear after it leaves the marker set, whatever came
before. -/
theorem markerAfter_pending (marked : Bool) (pre post : List Call)
    (notCleared : .localGroupsClean ∉ post) :
    markerAfter marked (pre ++ .clearRequested :: post) = true := by
  rw [markerAfter_append]
  show markerAfter true post = true
  induction post with
  | nil => rfl
  | cons c post ih =>
    have rest := ih fun member => notCleared (List.mem_cons_of_mem c member)
    cases c <;> first | exact rest | exact absurd (List.mem_cons_self _ _) notCleared

/-- A call a request may make: a request to clear, or `localgroups.Update`. -/
def Call.ofRequest : Call → Bool
  | .clearRequested | .localGroupsUpdate _ _ => true
  | _ => false

/-- The calls of a request neither clear nor sweep. -/
theorem Call.ofRequest_quiet {more : List Call} (requested : ∀ c ∈ more, c.ofRequest = true)
    (cutoff : Int) : .localGroupsClean ∉ more ∧ SweepsUse cutoff more :=
  ⟨fun member => absurd (requested _ member) (by simp [Call.ofRequest]),
    fun _ _ member => absurd (requested _ member) (by simp [Call.ofRequest])⟩

/-- A call after which `UserByName` may answer otherwise for `name`: the write of the user
`name`, its removal by a sweep, a clear, or the close of the cache. -/
def Call.touches (name : String) : Call → Bool
  | .localGroupsUpdate user _ => user = name
  | .localGroupsCleanUser user => user = name
  | .localGroupsClean | .cacheClose => true
  | _ => false

namespace Manager

/-- The manager went from `m` to `m'` making the calls `more`. `ok` says that the writes and
removals of the marker made on the way succeeded. -/
structure Moves (m m' : Manager) (more : List Call) (ok : Bool) : Prop where
  calls : m'.calls = m.calls ++ more
  /-- Only a request to clear sets the marker. -/
  marked : m'.dirtyFlag = true → m.dirtyFlag = true ∨ .clearRequested ∈ more
  /-- When its file operations succeed, the marker follows the calls. -/
  marker : ok = true → m'.dirtyFlag = markerAfter m.dirtyFlag more
  /-- `UserByName` answers as before for every name none of the calls touches. -/
  lookups : ∀ name, (∀ c ∈ more, c.touches name = false) →
    Cache.userByName m'.cache name = Cache.userByName m.cache name

theorem Moves.refl (m : Manager) (ok : Bool) : Moves m m [] ok :=
  ⟨(List.append_nil _).symm, .inl, fun _ => rfl, fun _ _ => rfl⟩

theorem Moves.trans {m m' m'' : Manager} {more more' : List Call} {ok ok' : Bool}
    (first : Moves m m' more ok) (second : Moves m' m'' more' ok') :
    Moves m m'' (more ++ more') (ok && ok') where
  calls := by rw [second.calls, first.calls, List.append_assoc]
  marked marked := by
    rcases second.marked marked with before | requested
    · exact (first.marked before).imp_right (List.mem_append_left more')
    · exact .inr (List.mem_append_right more requested)
  marker succeeded := by
    rw [Bool.and_eq_true] at succeeded
    rw [second.marker succeeded.2, first.marker succeeded.1, markerAfter_append]
  lookups name untouched := (second.lookups name fun c member =>
    untouched c (List.mem_append_right more member)).trans
      (first.lookups name fun c member => untouched c (List.mem_append_left more' member))

/-- Calls that neither request a clear nor clear, with a new cache, leave the marker. -/
theorem Moves.quiet (m : Manager) {cache : Db} {more : List Call} (ok : Bool)
    (quiet : ∀ c ∈ more, c ≠ .clearRequested ∧ c ≠ .localGroupsClean)
    (lookups : ∀ name, (∀ c ∈ more, c.touches name = false) →
      Cache.userByName cache name = Cache.userByName m.cache name) :
    Moves m { m with cache, calls := m.calls ++ more } more ok :=
  ⟨rfl, .inl, fun _ => (markerAfter_quiet _ quiet).symm, lookups⟩

/-- A request to clear sets the marker when its write succeeds. -/
theorem requestClearDatabase_moves (m : Manager) (markResult : Option GoError) :
    Moves m (m.requestClearDatabase markResult) [.clearRequested] markResult.isNone where
  calls := rfl
  marked _ := .inr (List.mem_singleton_self _)
  marker written := by
    show (m.markCorrupted markResult).dirtyFlag = true
    simp [written]
  lookups name _ := congrArg (Cache.userByName · name) (markCorrupted_cache m markResult)

theorem shouldClearDb_moves (m : Manager) (markResult : Option GoError) (err : GoError) :
    ∃ more, Moves m (m.shouldClearDb markResult err).1 more markResult.isNone ∧
      ∀ c ∈ more, c.ofRequest = true := by
  unfold shouldClearDb
  split_ifs
  · exact ⟨_, requestClearDatabase_moves m markResult, by simp [Call.ofRequest]⟩
  · exact ⟨[], Moves.refl m _, by simp⟩

theorem read_moves {α β : Type} (m : Manager) (markResult : Option GoError)
    (result : Except GoError α) (convert : α → β) :
    ∃ more, Moves m (m.read markResult result convert).1 more markResult.isNone ∧
      ∀ c ∈ more, c.ofRequest = true := by
  cases result with
  | error err => exact shouldClearDb_moves m markResult err
  | ok => exact ⟨[], Moves.refl m _, by simp⟩

theorem updateUserEntryAndGroups_moves (m : Manager) (now : Int)
    (localGroupsResult markResult : Option GoError) (u : UserInfo) :
    ∃ more, Moves m (m.updateUserEntryAndGroups now localGroupsResult markResult u).1 more
        markResult.isNone ∧
      ∀ c ∈ more, c.ofRequest = true := by
  have unchanged : ∃ more, Moves m m more markResult.isNone ∧ ∀ c ∈ more, c.ofRequest = true :=
    ⟨[], Moves.refl m _, by simp⟩
  unfold updateUserEntryAndGroups
  split_ifs
  · exact unchanged
  split
  · exact unchanged
  split
  · exact unchanged
  · exact unchanged
  rename_i primaryGID groupContents localGroups _ _
  dsimp only
  split
  · exact shouldClearDb_moves m markResult _
  next cache updated =>
  -- the user is written and `localgroups.Update` is called; `UserByName` answers as
  -- before for every other name
  have written : ∀ name, u.name ≠ name →
      Cache.userByName cache name = Cache.userByName m.cache name := fun name other => by
    rw [userByName_updateUserEntry updated]
    exact if_neg (Ne.symm other)
  have untouched : ∀ name, (∀ c ∈ [Call.localGroupsUpdate u.name localGroups],
      c.touches name = false) → u.name ≠ name := fun name untouched => by
    simpa [Call.touches] using untouched
  have update := fun ok => @Moves.quiet m cache [.localGroupsUpdate u.name localGroups] ok
    (by simp) fun name other => written name (untouched name other)
  split
  · exact ⟨_, update _, by simp [Call.ofRequest]⟩
  split
  · next cache' deleted =>
    -- the rollback finds the user just written under its UID, and removes that one
    obtain ⟨byID, -, stored⟩ := (updateUserEntry_users updated).2.2.1
    refine ⟨_, @Moves.quiet m cache' [.localGroupsUpdate u.name localGroups] _ (by simp)
      fun name other => ?_, by simp [Call.ofRequest]⟩
    rw [← written name (untouched name other)]
    refine userByName_deleteUser deleted fun found lookedUp => ?_
    simp only [stored, Option.getD_some] at lookedUp
    cases Option.some.inj (Option.some.inj ((Bucket.lookup_put_self byID _ _).symm.trans lookedUp))
    exact untouched name other
  · next deleteErr _ =>
    -- the rollback fails as well
    obtain ⟨more, moved, requested⟩ := shouldClearDb_moves _ markResult deleteErr
    exact ⟨_, (update true).trans moved, by simpa [Call.ofRequest] using requested⟩

theorem updateUser_moves (m : Manager) (now : Int) (localGroupsResult markResult : Option GoError)
    (u : UserInfo) :
    ∃ more, Moves m (m.updateUser now localGroupsResult markResult u).1 more markResult.isNone ∧
      ∀ c ∈ more, c.ofRequest = true :=
  updateUserEntryAndGroups_moves m now localGroupsResult markResult u

/-- A sweep neither requests a clear nor clears: it calls `CleanExpiredUsers` with the
options' cutoff, then `localgroups.CleanUser` for each user removed. -/
theorem cleanExpiredUserData_moves (m : Manager) (opts : Options)
    (procDir : Except GoError (List DirEntry)) (cleanUser : String → Option GoError) :
    ∃ more, Moves m (m.cleanExpiredUserData opts procDir cleanUser).1 more true ∧
      .clearRequested ∉ more ∧ .localGroupsClean ∉ more ∧ SweepsUse opts.expirationDate more := by
  unfold cleanExpiredUserData
  split
  · exact ⟨[], Moves.refl m _, by simp, by simp, by simp [SweepsUse]⟩
  next activeUIDs _ =>
  have sweep := @Moves.quiet m m.cache [.cleanExpiredUsers activeUIDs opts.expirationDate] true
    (by simp) fun _ _ => rfl
  dsimp only
  split
  · exact ⟨_, sweep, by simp, by simp, by simp [SweepsUse]⟩
  next cache cleanedUsers cleaned =>
  -- the users removed are the ones whose names the sweep hands `localgroups.CleanUser`
  refine ⟨_, sweep.trans (Moves.quiet _ true (by simp) fun name untouched => ?_), by simp,
    by simp, by simp [SweepsUse]⟩
  exact userByName_cleanExpiredUsers cleaned fun member => by
    simpa [Call.touches] using untouched _ (List.mem_map_of_mem _ member)

/-- A clear either fails at `cache.Clear` and changes nothing, or gets past it and removes
the marker unless `os.Remove` fails. -/
theorem clear_moves (m : Manager) (cacheClear removeResult cleanResult : Option GoError) :
    Moves m (m.clear cacheClear removeResult cleanResult).1 [] removeResult.isNone ∨
      Moves m (m.clear cacheClear removeResult cleanResult).1 [.localGroupsClean]
        removeResult.isNone := by
  cases cacheClear with
  | some => exact .inl (Moves.refl m _)
  | none =>
    refine .inr ⟨rfl, fun marked => .inl (Bool.and_eq_true _ _ ▸ marked).1, fun removed => ?_,
      fun name untouched => by simp [Call.touches] at untouched⟩
    show (m.dirtyFlag && removeResult.isSome) = false
    rw [Option.isNone_iff_eq_none.mp removed]
    exact Bool.and_false _

end Manager

/-! ## 2. Requests and the routine, interleaved -/

/-- A request of the NSS and PAM services to the manager. -/
inductive Request
  | userByName (username : String)
  | userByID (uid : Int)
  | shadowByName (username : String)
  | allUsers
  | allShadows
  | groupByName (groupname : String)
  | groupByID (gid : Int)
  /-- `UpdateUser` at login, at time `now`, where `localgroups.Update` ends with
  `localGroupsResult`. -/
  | updateUser (now : Int) (localGroupsResult : Option GoError) (u : UserInfo)

/-- The manager once it has served `req`, where the write of the marker ends with
`markResult` if the request makes it. -/
def Manager.serve (m : Manager) (markResult : Option GoError) : Request → Manager
  | .userByName username => (m.userByName markResult username).1
  | .userByID uid => (m.userByID markResult uid).1
  | .shadowByName username => (m.shadowByName markResult username).1
  | .allUsers => (m.allUsers markResult).1
  | .allShadows => (m.allShadows markResult).1
  | .groupByName groupname => (m.groupByName markResult groupname).1
  | .groupByID gid => (m.groupByID markResult gid).1
  | .updateUser now localGroupsResult u => (m.updateUser now localGroupsResult markResult u).1

/-- What a request may add: a request to clear, and `localgroups.Update`. -/
theorem Manager.serve_moves (m : Manager) (markResult : Option GoError) (req : Request) :
    ∃ more, m.Moves (m.serve markResult req) more markResult.isNone ∧
      ∀ c ∈ more, c.ofRequest = true := by
  cases req with
  | updateUser now localGroupsResult u =>
    exact m.updateUser_moves now localGroupsResult markResult u
  | _ => exact m.read_moves markResult _ _

/-- The manager and its cleanup routine, with the number of requesters blocked on
`doClear`, their offer neither taken nor dropped yet. -/
structure Service where
  routine : Routine
  offered : Nat

/-- A step of the service. -/
inductive Step
  /-- A request is served, and a request to clear it makes is offered on `doClear`;
  `markResult` is how the write of the marker ends, if the request makes it. -/
  | request (markResult : Option GoError) (req : Request)
  /-- An offer on `doClear` is dropped after 10 ms. -/
  | timeout
  /-- The routine's `select` ends; on `doClear` it takes an offer. -/
  | wakeup (w : Wakeup)

/-- The writes and removals of the marker a step makes, if any, succeed. -/
def Step.markerOk : Step → Bool
  | .request markResult _ => markResult.isNone
  | .wakeup (.doClear _ removeResult _) => removeResult.isNone
  | _ => true

/-- The requests to clear among `calls`. -/
def clearRequests (calls : List Call) : Nat := calls.count .clearRequested

def Service.step (s : Service) : Step → Option Service
  | .request markResult req =>
    let m := s.routine.manager.serve markResult req
    some ⟨{ s.routine with manager := m },
      s.offered + (clearRequests m.calls - clearRequests s.routine.manager.calls)⟩
  | .timeout => if s.offered = 0 then none else some ⟨s.routine, s.offered - 1⟩
  | .wakeup w =>
    if s.routine.stopped then none else
    match w with
    | .doClear .. => if s.offered = 0 then none else some ⟨s.routine.step w, s.offered - 1⟩
    | _ => some ⟨s.routine.step w, s.offered⟩

/-- The service after `steps`, or `none` when one of them cannot be taken. -/
def Service.run (s : Service) : List Step → Option Service
  | [] => some s
  | st :: rest => (s.step st).bind fun s => s.run rest

/-- The service as `NewManager` leaves it: the routine started with the options, nothing
offered. -/
def Service.start (m : Manager) (opts : Options) : Service := ⟨⟨m, opts, false⟩, 0⟩

/-- What steps do to the service: the manager moves, the clears that go through each take
an offer and the requests to clear each add one, the options stay, and every sweep uses
their cutoff. -/
structure Service.Moves (s s' : Service) (more : List Call) (ok : Bool) : Prop where
  manager : s.routine.manager.Moves s'.routine.manager more ok
  clears : more.count .localGroupsClean + s'.offered ≤ s.offered + clearRequests more
  opts : s'.routine.opts = s.routine.opts
  sweeps : SweepsUse s.routine.opts.expirationDate more

/-- A step that makes no call, keeps the options and adds no offer. -/
theorem Service.Moves.still {s s' : Service} {ok : Bool}
    (manager : s.routine.manager.Moves s'.routine.manager [] ok)
    (opts : s'.routine.opts = s.routine.opts) (offered : s'.offered ≤ s.offered) :
    s.Moves s' [] ok :=
  ⟨manager, by simpa [clearRequests] using offered, opts, by simp [SweepsUse]⟩

theorem Service.Moves.refl (s : Service) (ok : Bool) : s.Moves s [] ok :=
  .still (Manager.Moves.refl _ _) rfl le_rfl

theorem Service.Moves.trans {s s' s'' : Service} {more more' : List Call} {ok ok' : Bool}
    (first : s.Moves s' more ok) (second : s'.Moves s'' more' ok') :
    s.Moves s'' (more ++ more') (ok && ok') := by
  refine ⟨first.manager.trans second.manager, ?_, second.opts.trans first.opts,
    sweepsUse_append.2 ⟨first.sweeps, first.opts ▸ second.sweeps⟩⟩
  have counted := first.clears
  have counted' := second.clears
  simp only [clearRequests, List.count_append] at counted counted' ⊢
  omega

theorem Service.step_moves {s s' : Service} {st : Step} (stepped : s.step st = some s') :
    ∃ more, s.Moves s' more st.markerOk := by
  cases st with
  | request markResult req =>
    cases stepped
    obtain ⟨more, moved, requested⟩ := s.routine.manager.serve_moves markResult req
    obtain ⟨notCleared, sweeps⟩ := Call.ofRequest_quiet requested s.routine.opts.expirationDate
    refine ⟨more, moved, ?_, rfl, sweeps⟩
    simp only [clearRequests, moved.calls, List.count_append, List.count_eq_zero.mpr notCleared]
    omega
  | timeout =>
    simp only [Service.step] at stepped
    split_ifs at stepped with idle
    cases stepped
    exact ⟨[], .still (Manager.Moves.refl _ _) rfl (Nat.sub_le _ _)⟩
  | wakeup w =>
    cases w with
    | doClear cacheClear removeResult cleanResult =>
      simp only [Service.step] at stepped
      split_ifs at stepped with stopped idle
      cases stepped
      simp only [Routine.step, stopped, if_false]
      rcases s.routine.manager.clear_moves cacheClear removeResult cleanResult with
        failed | cleared
      · exact ⟨[], .still failed rfl (Nat.sub_le _ _)⟩
      · exact ⟨[.localGroupsClean], cleared, by simp only [clearRequests]; simp; omega, rfl,
          by simp [SweepsUse]⟩
    | interval now procDir cleanUser =>
      simp only [Service.step] at stepped
      split_ifs at stepped with stopped
      cases stepped
      simp only [Routine.step, stopped, if_false]
      obtain ⟨more, moved, notRequested, notCleared, sweeps⟩ :=
        s.routine.manager.cleanExpiredUserData_moves s.routine.opts procDir cleanUser
      refine ⟨more, moved, ?_, rfl, sweeps⟩
      simp only [clearRequests, List.count_eq_zero.mpr notRequested,
        List.count_eq_zero.mpr notCleared]
      omega
    | quit =>
      -- the routine returns and `Stop` closes the cache, after which no name answers as before
      simp only [Service.step] at stepped
      split_ifs at stepped with stopped
      cases stepped
      simp only [Routine.step, if_neg stopped]
      refine ⟨[.cacheClose], Manager.Moves.quiet _ true (by simp) fun name untouched => ?_,
        by simp [clearRequests], rfl, by simp [SweepsUse]⟩
      exact absurd (untouched _ (List.mem_singleton_self _)) (by simp [Call.touches])

theorem Service.run_moves {s s' : Service} {steps : List Step} (ran : s.run steps = some s') :
    ∃ more, s.Moves s' more (steps.all Step.markerOk) := by
  induction steps generalizing s with
  | nil =>
    cases ran
    exact ⟨[], Service.Moves.refl _ _⟩
  | cons st rest ih =>
    obtain ⟨mid, stepped, ran⟩ := Option.bind_eq_some.mp ran
    obtain ⟨more, moved⟩ := Service.step_moves stepped
    obtain ⟨more', moved'⟩ := ih ran
    exact ⟨_, moved.trans moved'⟩

/-! ## 3. The marker and the clears over every run -/

/-- A database whose record for `bob` does not decode. -/
def bobCorrupted : Db := ⟨true, some [], some [("bob", none)], some [], some []⟩

/-- A start on `bobCorrupted`, with the default options at time 0. -/
def bobService : Service := Service.start ⟨bobCorrupted, false, []⟩ (newOptions 0 [])

/-- Under every interleaving of requests, timeouts and turns of the routine, from any
state: the manager only adds calls; the `.corrupted` marker is set at the end only if it
was set before or a clear was requested; and when every write and removal of the marker
succeeds, it is set exactly when a clear was requested after the last clear that went
through, or, with neither, when it was set before. -/
theorem marker_follows_requests {s s' : Service} {steps : List Step}
    (ran : s.run steps = some s') :
    ∃ more, s'.routine.manager.calls = s.routine.manager.calls ++ more ∧
      (s'.routine.manager.dirtyFlag = true →
        s.routine.manager.dirtyFlag = true ∨ .clearRequested ∈ more) ∧
      ((∀ st ∈ steps, st.markerOk = true) →
        s'.routine.manager.dirtyFlag = markerAfter s.routine.manager.dirtyFlag more) :=
  let ⟨more, moved⟩ := Service.run_moves ran
  ⟨more, moved.manager.calls, moved.manager.marked,
    fun succeeded => moved.manager.marker (List.all_eq_true.2 succeeded)⟩

/-- `UserByName` finds `bob`'s record corrupted and the routine misses the request: the
marker stays. -/
theorem marker_follows_bob :
    ∃ s', bobService.run [.request none (.userByName "bob"), .timeout] = some s' ∧
      ∃ more, s'.routine.manager.calls = bobService.routine.manager.calls ++ more ∧
        (s'.routine.manager.dirtyFlag = true →
          bobService.routine.manager.dirtyFlag = true ∨ .clearRequested ∈ more) ∧
        ((∀ st ∈ [Step.request none (.userByName "bob"), .timeout], st.markerOk = true) →
          s'.routine.manager.dirtyFlag = markerAfter bobService.routine.manager.dirtyFlag more) := by
  refine ⟨?s, ?ran, marker_follows_requests ?ran⟩
  case ran => exact rfl

/-- From the start, under every interleaving, the clears of the routine that go through
are never more than the requests to clear: the database is never wiped unasked. -/
theorem clears_only_requested {m : Manager} {opts : Options} {steps : List Step}
    {s' : Service} (ran : (Service.start m opts).run steps = some s') :
    ∃ more, s'.routine.manager.calls = m.calls ++ more ∧
      more.count .localGroupsClean ≤ more.count .clearRequested := by
  obtain ⟨more, moved⟩ := Service.run_moves ran
  refine ⟨more, moved.manager.calls, ?_⟩
  have counted := moved.clears
  simp only [Service.start, clearRequests] at counted
  omega

/-- The routine takes the request for `bob`'s record and clears the database. -/
theorem clears_only_requested_bob :
    ∃ s', bobService.run [.request none (.userByName "bob"), .wakeup (.doClear none none none)] =
        some s' ∧
      ∃ more, s'.routine.manager.calls = [] ++ more ∧
        more.count .localGroupsClean ≤ more.count .clearRequested := by
  refine ⟨?s, ?ran, clears_only_requested ?ran⟩
  case ran => exact rfl

theorem cleanExpiredUsers_clearedCache (activeUIDs : List UInt32) (cutoff : Int) :
    cleanExpiredUsers Manager.clearedCache activeUIDs cutoff = .ok (Manager.clearedCache, []) :=
  rfl

/-- A sweep of a cleared database leaves it cleared, and the marker as it is. -/
theorem cleanExpiredUserData_cleared {m : Manager} (cleared : m.cache = Manager.clearedCache)
    (opts : Options) (procDir : Except GoError (List DirEntry))
    (cleanUser : String → Option GoError) :
    (m.cleanExpiredUserData opts procDir cleanUser).1.cache = Manager.clearedCache ∧
      (m.cleanExpiredUserData opts procDir cleanUser).1.dirtyFlag = m.dirtyFlag ∧
      ∃ more, (m.cleanExpiredUserData opts procDir cleanUser).1.calls = m.calls ++ more := by
  unfold Manager.cleanExpiredUserData
  split
  · exact ⟨cleared, rfl, [], by simp⟩
  · simp [cleared, cleanExpiredUsers_clearedCache]

/-- `NewManager` on a marked database clears it before anything else, or fails; the
marker is gone unless `os.Remove` failed. -/
theorem newManager_marked {cache : Db} {args : List ManagerOption} {host : Startup}
    {m : Manager} {opts : Options} (started : newManager cache true args host = .ok (m, opts)) :
    m.cache = Manager.clearedCache ∧ m.dirtyFlag = host.removeResult.isSome ∧
      ∃ later, m.calls = .localGroupsClean :: later := by
  rcases host with ⟨now, _ | _, removeResult, _ | _, procDir, cleanUser⟩ <;>
    simp only [newManager, Manager.clear, if_true, Option.map_none', Option.map_some',
      reduceCtorEq] at started
  injection started with started
  injection started with started
  subst started
  split
  · exact cleanExpiredUserData_cleared rfl _ _ _
  · exact ⟨rfl, rfl, [], rfl⟩

/-- In a run from the start whose writes and removals of the marker succeed, a clear
requested with no clear getting past `cache.Clear` after it (the routine missed the
request, or `cache.Clear` failed) is not lost: the marker is still set, and the next
`NewManager` on the database the run left clears it before anything else, or fails. -/
theorem pending_clear_done_at_restart {m : Manager} {opts : Options} {steps : List Step}
    {s' : Service} (ran : (Service.start m opts).run steps = some s')
    (succeeded : ∀ st ∈ steps, st.markerOk = true) {pre post : List Call}
    (requested : s'.routine.manager.calls = m.calls ++ pre ++ .clearRequested :: post)
    (notCleared : .localGroupsClean ∉ post) {args : List ManagerOption} {host : Startup}
    {m' : Manager} {opts' : Options}
    (restarted : newManager s'.routine.manager.cache s'.routine.manager.dirtyFlag args host =
      .ok (m', opts')) :
    s'.routine.manager.dirtyFlag = true ∧ m'.cache = Manager.clearedCache ∧
      m'.dirtyFlag = host.removeResult.isSome ∧ ∃ later, m'.calls = .localGroupsClean :: later := by
  obtain ⟨more, ⟨moved, -, -, -⟩⟩ := Service.run_moves ran
  have made : more = pre ++ .clearRequested :: post := by
    have calls := moved.calls
    rw [requested, List.append_assoc] at calls
    exact (List.append_cancel_left calls).symm
  have marked : s'.routine.manager.dirtyFlag = true := by
    rw [moved.marker (List.all_eq_true.2 succeeded), made]
    exact markerAfter_pending _ pre post notCleared
  rw [marked] at restarted
  exact ⟨marked, newManager_marked restarted⟩

/-- The routine misses the request for `bob`'s record; the next start clears the
database. -/
theorem pending_clear_done_bob :
    ∃ s', bobService.run [.request none (.userByName "bob"), .timeout] = some s' ∧
      (∀ st ∈ [Step.request none (.userByName "bob"), .timeout], st.markerOk = true) ∧
      (s'.routine.manager.calls = [] ++ [] ++ .clearRequested :: [] ∧
        ∃ m' opts', newManager s'.routine.manager.cache s'.routine.manager.dirtyFlag []
            ⟨0, none, none, none, .ok [], fun _ => none⟩ = .ok (m', opts') ∧
          s'.routine.manager.dirtyFlag = true ∧ m'.cache = Manager.clearedCache ∧
            m'.dirtyFlag = (none : Option GoError).isSome ∧
            ∃ later, m'.calls = .localGroupsClean :: later) := by
  refine ⟨?s, ?ran, ?succeeded, ?requested, ?m', ?opts', ?restarted,
    pending_clear_done_at_restart ?ran ?succeeded ?requested (List.not_mem_nil _) ?restarted⟩
  case ran => exact rfl
  case succeeded => decide
  case requested => exact rfl
  case restarted => exact rfl

/-! ## 4. The cutoff of the sweeps -/

/-- Without `WithUserExpirationDate`, under every interleaving of requests and turns of the
routine, every sweep after `NewManager` uses the cutoff computed when it started: six
months before the start, however long the manager has run. -/
theorem sweeps_keep_start_cutoff {cache : Db} {dirtyFlag : Bool} {host : Startup}
    {m : Manager} {opts : Options} (started : newManager cache dirtyFlag [] host = .ok (m, opts))
    {steps : List Step} {s' : Service} (ran : (Service.start m opts).run steps = some s') :
    ∃ more, s'.routine.manager.calls = m.calls ++ more ∧
      SweepsUse (host.now - defaultEntryExpiration) more := by
  obtain ⟨more, moved⟩ := Service.run_moves ran
  refine ⟨more, moved.manager.calls, ?_⟩
  rw [← newManager_cutoff started]
  exact moved.sweeps

/-- `bob` is looked up, then the routine sweeps a day after the start. -/
theorem sweeps_keep_start_cutoff_bob :
    ∃ m opts s', newManager bobCache false [] ⟨0, none, none, none, .ok [], fun _ => none⟩ =
        .ok (m, opts) ∧
      (Service.start m opts).run [.request none (.userByName "bob"),
        .wakeup (.interval defaultCleanupInterval (.ok []) fun _ => none)] = some s' ∧
      ∃ more, s'.routine.manager.calls = m.calls ++ more ∧
        SweepsUse (0 - defaultEntryExpiration) more := by
  refine ⟨?m, ?opts, ?s', ?started, ?ran, sweeps_keep_start_cutoff ?started ?ran⟩
  case started => exact rfl
  case ran => exact rfl

/-! ## 5. What `UserByName` answers over a run -/

end Authd.Users
