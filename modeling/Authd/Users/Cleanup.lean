import Authd.Users.Manager

/-!
# Expiry and the cleanup routine

`NewManager` opens the cache in at most two tries, removing a database that needs
clearing after a try, and computes its options once: unless `WithUserExpirationDate`
is given, the expiration date is `time.Now()` minus `defaultEntryExpiration`. It
sweeps expired users once, then starts the cleanup routine, which on every
`cleanupInterval` runs `cleanExpiredUserData` with those same options, on every
`doClear` clears the database, and on `quit` returns, after which `Stop` closes the
cache.

A sweep lists `/proc`, keeps the owner of every entry whose name `strconv.Atoi`
accepts, hands that set to `CleanExpiredUsers`, and removes every user it
deleted from the local groups. Go collects the owners in a map; the model keeps them
in a list, and every result about them is about membership.

Results:
* `cleanExpiredUserData_passes_running_owners`: a sweep either makes no call to
  `CleanExpiredUsers`, or passes it the owner of every numeric entry of the
  listing that did not vanish;
* `sweep_scan_listing`: a sweep hands `CleanExpiredUsers` exactly the set of owners
  of the numeric entries of the listing whose metadata could be read, unless one of
  them blocks the scan, when it makes no call at all;
* `newManager_cutoff`: the expiration date of the options is fixed when
  `NewManager` runs;
* `sweep_keeps_expired_user`: so a sweep a day after start does not remove a
  user whose last login is by then more than six months old;
* `cleanExpiredUserData_error`: a sweep reports only what the last removal from
  the local groups returned;
* `sweep_hides_clean_user_failure`: so a failure for one user is lost when a
  later one succeeds.
-/

namespace Authd.Users

open Cache

/-! ## `strconv.Atoi` and `/proc` -/

def isDigit (b : UInt8) : Bool := 0x30 ≤ b.toNat && b.toNat ≤ 0x39

/-- The value of one or more decimal digits. -/
def decimal (digits : List UInt8) : Option Nat :=
  if digits ≠ [] ∧ digits.all isDigit then
    some (digits.foldl (fun n b => n * 10 + (b.toNat - 0x30)) 0)
  else none

/-- `strconv.Atoi` with a 64-bit `int`: an optional sign, one or more decimal digits,
and a value that fits. -/
def atoi : List UInt8 → Option Int
  | [] => none
  | b :: digits =>
    if b = 0x2D then (decimal digits).bind fun n => if n ≤ 2 ^ 63 then some (-n) else none
    else if b = 0x2B then (decimal digits).bind fun n => if n < 2 ^ 63 then some n else none
    else (decimal (b :: digits)).bind fun n => if n < 2 ^ 63 then some n else none

/-- What `dirEntry.Info()` returns: the name, and the owner when `Sys()` is a
`*syscall.Stat_t`. -/
structure FileInfo where
  name : List UInt8
  statUid : Option UInt32

/-- An entry of `os.ReadDir`, with the outcome of its `Info()`. -/
structure DirEntry where
  name : List UInt8
  info : Except GoError FileInfo

/-- The loop of `getUIDsOfRunningProcesses` over the directory entries. -/
def collectUIDs : List DirEntry → Except GoError (List UInt32)
  | [] => .ok []
  | e :: rest =>
    if (atoi e.name).isNone then collectUIDs rest else
    match e.info with
    | .error err => if err.isNotExist then collectUIDs rest else .error err
    | .ok info =>
      match info.statUid with
      | none => .error (.noOwnership info.name)
      | some uid => (collectUIDs rest).map (uid :: ·)

/-- `getUIDsOfRunningProcesses`, where `os.ReadDir(procDir)` returns `dirEntries`. -/
def getUIDsOfRunningProcesses (dirEntries : Except GoError (List DirEntry)) :
    Except GoError (List UInt32) :=
  (dirEntries.bind collectUIDs).mapError (.wrap "could not get UIDs of running processes")

/-- A numeric entry of `/proc` is accounted for by `uids`: it vanished before its
metadata could be read, or its owner is in `uids`. -/
def RunningOwner (uids : List UInt32) (e : DirEntry) : Prop :=
  (∃ err, e.info = .error err ∧ err.isNotExist) ∨
    ∃ info uid, e.info = .ok info ∧ info.statUid = some uid ∧ uid ∈ uids

theorem RunningOwner.cons {uids : List UInt32} {e : DirEntry} (uid : UInt32)
    (owned : RunningOwner uids e) : RunningOwner (uid :: uids) e := by
  rcases owned with vanished | ⟨info, owner, read, stat, member⟩
  · exact .inl vanished
  · exact .inr ⟨info, owner, read, stat, List.mem_cons_of_mem uid member⟩

/-- The scan is complete: when it succeeds, every numeric entry is accounted for. -/
theorem collectUIDs_complete {entries : List DirEntry} {uids : List UInt32}
    (collected : collectUIDs entries = .ok uids) :
    ∀ e ∈ entries, (atoi e.name).isSome → RunningOwner uids e := by
  induction entries generalizing uids with
  | nil => simp
  | cons e rest ih =>
    intro e' member numeric
    simp only [collectUIDs] at collected
    split_ifs at collected with skipped
    · rcases List.mem_cons.mp member with rfl | inRest
      · simp_all
      · exact ih collected e' inRest numeric
    · rcases read : e.info with err | info <;> rw [read] at collected
      · simp only at collected
        split_ifs at collected with vanished
        rcases List.mem_cons.mp member with rfl | inRest
        · exact .inl ⟨err, read, vanished⟩
        · exact ih collected e' inRest numeric
      · rcases stat : info.statUid with _ | uid
        · simp [stat] at collected
        simp only [stat] at collected
        obtain ⟨restUIDs, restCollected, rfl⟩ := except_map_eq_ok.mp collected
        rcases List.mem_cons.mp member with rfl | inRest
        · exact .inr ⟨info, uid, read, stat, List.mem_cons_self uid restUIDs⟩
        · exact (ih restCollected e' inRest numeric).cons uid

theorem getUIDsOfRunningProcesses_ok {entries : List DirEntry} {uids : List UInt32}
    (scanned : getUIDsOfRunningProcesses (.ok entries) = .ok uids) :
    collectUIDs entries = .ok uids := by
  rcases collected : collectUIDs entries <;>
    simp_all [getUIDsOfRunningProcesses, Except.bind, Except.mapError]

/-- The owner a numeric entry of the listing reports, when its metadata could be read. -/
def DirEntry.owner (e : DirEntry) : Option UInt32 :=
  if (atoi e.name).isSome then
    match e.info with
    | .ok info => info.statUid
    | .error _ => none
  else none

/-- A numeric entry whose metadata could not be read for a reason other than its
vanishing, or carries no owner: the scan fails on it. -/
def DirEntry.blocksScan (e : DirEntry) : Bool :=
  (atoi e.name).isSome &&
    match e.info with
    | .error err => !err.isNotExist
    | .ok info => info.statUid.isNone

/-- One entry of the scan: it blocks the scan, or puts its owner, if it has one, before the
owners the rest of the listing gives. -/
theorem collectUIDs_cons (e : DirEntry) (rest : List DirEntry) :
    (e.blocksScan = true → ∃ err, collectUIDs (e :: rest) = .error err) ∧
      (e.blocksScan = false →
        collectUIDs (e :: rest) = (collectUIDs rest).map (e.owner.toList ++ ·)) := by
  rcases numeric : atoi e.name with _ | n
  · simp [DirEntry.blocksScan, DirEntry.owner, collectUIDs, numeric, ← Function.id_def]
  rcases read : e.info with err | info
  · by_cases vanished : err.isNotExist <;>
      simp [DirEntry.blocksScan, DirEntry.owner, collectUIDs, numeric, read, vanished,
        ← Function.id_def]
  · rcases owner : info.statUid with _ | uid <;>
      simp [DirEntry.blocksScan, DirEntry.owner, collectUIDs, numeric, read, owner]

/-- The scan, said over the whole listing: it fails exactly when a numeric entry blocks it,
and otherwise returns the owners of the numeric entries, each of them and no other. -/
theorem collectUIDs_listing (entries : List DirEntry) :
    (entries.any DirEntry.blocksScan = false → ∃ uids, collectUIDs entries = .ok uids ∧
      ∀ uid, uid ∈ uids ↔ ∃ e ∈ entries, e.owner = some uid) ∧
    (entries.any DirEntry.blocksScan = true → ∃ err, collectUIDs entries = .error err) := by
  induction entries with
  | nil => exact ⟨fun _ => ⟨[], rfl, by simp⟩, nofun⟩
  | cons e rest ih =>
    obtain ⟨blocking, passing⟩ := collectUIDs_cons e rest
    cases blocks : e.blocksScan
    · simp only [List.any_cons, blocks, Bool.false_or, passing blocks]
      refine ⟨fun clean => ?_, fun blocked => ?_⟩
      · obtain ⟨uids, scanned, owners⟩ := ih.1 clean
        refine ⟨e.owner.toList ++ uids, by rw [scanned]; rfl, fun uid => ?_⟩
        simp only [List.mem_append, owners, List.mem_cons, or_and_right, exists_or, exists_eq_left,
          Option.mem_toList, Option.mem_def]
      · obtain ⟨err, failed⟩ := ih.2 blocked
        exact ⟨err, by rw [failed]; rfl⟩
    · simp only [List.any_cons, blocks, Bool.true_or]
      exact ⟨nofun, fun _ => blocking blocks⟩

/-! ## Options and the sweep -/

/-- `defaultEntryExpiration`, six months of 30 days, in nanoseconds. -/
def defaultEntryExpiration : Int := 24 * 30 * 6 * 3600 * 1000000000

/-- `defaultCleanupInterval`, a day, in nanoseconds. -/
def defaultCleanupInterval : Int := 24 * 3600 * 1000000000

/-- `options`. `procDir` is left out: what listing it gives is an input of each sweep. -/
structure Options where
  expirationDate : Int
  cleanOnNew : Bool
  cleanupInterval : Int
deriving DecidableEq, Repr

/-- `Option`: `WithUserExpirationDate` is the one the package exports. -/
inductive ManagerOption
  | withUserExpirationDate (date : Int)

def ManagerOption.apply : ManagerOption → Options → Options
  | .withUserExpirationDate date, o => { o with expirationDate := date }

/-- The options `NewManager` starts with at time `now`, then `args` applied in order. -/
def newOptions (now : Int) (args : List ManagerOption) : Options :=
  args.foldl (fun o arg => arg.apply o) ⟨now - defaultEntryExpiration, true, defaultCleanupInterval⟩

/-- The loop over the cleaned users: `err` ends as what the last `CleanUser` returned. -/
def cleanUsers (cleanUser : String → Option GoError) : Option GoError → List String → Option GoError
  | err, [] => err
  | _, u :: rest => cleanUsers cleanUser (cleanUser u) rest

namespace Manager

/-- `cleanExpiredUserData`, where `os.ReadDir(opts.procDir)` returns `procDir` and
`localgroups.CleanUser(name)` ends with `cleanUser name`. -/
def cleanExpiredUserData (m : Manager) (opts : Options) (procDir : Except GoError (List DirEntry))
    (cleanUser : String → Option GoError) : Manager × Option GoError :=
  match getUIDsOfRunningProcesses procDir with
  | .error err => (m, some (.describe "could not get list of active users" err))
  | .ok activeUIDs =>
    let m := { m with calls := m.calls ++ [.cleanExpiredUsers activeUIDs opts.expirationDate] }
    match cleanExpiredUsers m.cache activeUIDs opts.expirationDate with
    | .error err => (m, some (.describe "could not clean database of expired users" err))
    | .ok (cache, cleanedUsers) =>
      ({ m with cache, calls := m.calls ++ cleanedUsers.map .localGroupsCleanUser },
        cleanUsers cleanUser none cleanedUsers)

/-- Modelled from the spec: `Cache.Clear` destroys and recreates the database, every
bucket empty. -/
def clearedCache : Db := ⟨true, some [], some [], some [], some []⟩

/-- `clear`, where `cache.Clear` ends with `cacheClear`, `os.Remove` of the marker with
`removeResult` and `localgroups.Clean` with `cleanResult`. A failed removal only logs,
and the marker stays. -/
def clear (m : Manager) (cacheClear removeResult cleanResult : Option GoError) :
    Manager × Option GoError :=
  match cacheClear with
  | some err => (m, some (.describe "could not clear corrupted data" err))
  | none =>
    ({ m with
        cache := clearedCache
        dirtyFlag := m.dirtyFlag && removeResult.isSome
        calls := m.calls ++ [.localGroupsClean] },
      cleanResult.map (.describe "could not clean local groups"))

end Manager

/-- A sweep calls `CleanExpiredUsers` at most once, and then with the owner of every
numeric entry of `/proc` that did not vanish; the calls after it only clean local
groups. -/
theorem cleanExpiredUserData_passes_running_owners (m : Manager) (opts : Options)
    (procDir : Except GoError (List DirEntry)) (cleanUser : String → Option GoError) :
    (m.cleanExpiredUserData opts procDir cleanUser).1.calls = m.calls ∨
    ∃ entries activeUIDs later, procDir = .ok entries ∧
      (m.cleanExpiredUserData opts procDir cleanUser).1.calls =
        m.calls ++ .cleanExpiredUsers activeUIDs opts.expirationDate :: later ∧
      (∀ c ∈ later, ∃ u, c = .localGroupsCleanUser u) ∧
      ∀ e ∈ entries, (atoi e.name).isSome → RunningOwner activeUIDs e := by
  rcases scan : getUIDsOfRunningProcesses procDir with err | activeUIDs
  · exact .inl (by simp [Manager.cleanExpiredUserData, scan])
  · right
    rcases procDir with err | entries
    · cases scan
    have complete := collectUIDs_complete (getUIDsOfRunningProcesses_ok scan)
    simp only [Manager.cleanExpiredUserData, scan]
    split
    · exact ⟨entries, activeUIDs, [], rfl, by simp, by simp, complete⟩
    · next cleaned _ =>
      exact ⟨entries, activeUIDs, cleaned.map .localGroupsCleanUser, rfl, by simp, by simp, complete⟩

/-- What a sweep makes of the listing of `/proc`: when no numeric entry blocks the scan, it
hands `CleanExpiredUsers` the owners of the numeric entries whose metadata could be read,
each of them and no other UID; when one does, it reports an error and leaves the manager
as it was, with no call made. -/
theorem sweep_scan_listing (m : Manager) (opts : Options) (entries : List DirEntry)
    (cleanUser : String → Option GoError) :
    (entries.any DirEntry.blocksScan = false → ∃ activeUIDs later,
      (m.cleanExpiredUserData opts (.ok entries) cleanUser).1.calls =
        m.calls ++ .cleanExpiredUsers activeUIDs opts.expirationDate :: later ∧
      ∀ uid, uid ∈ activeUIDs ↔ ∃ e ∈ entries, e.owner = some uid) ∧
    (entries.any DirEntry.blocksScan = true →
      (m.cleanExpiredUserData opts (.ok entries) cleanUser).1 = m ∧
        (m.cleanExpiredUserData opts (.ok entries) cleanUser).2.isSome) := by
  refine ⟨fun clean => ?_, fun blocked => ?_⟩
  · obtain ⟨uids, scanned, owners⟩ := (collectUIDs_listing entries).1 clean
    have called : ∃ later, (m.cleanExpiredUserData opts (.ok entries) cleanUser).1.calls =
        m.calls ++ .cleanExpiredUsers uids opts.expirationDate :: later := by
      simp only [Manager.cleanExpiredUserData, getUIDsOfRunningProcesses, Except.bind, scanned,
        Except.mapError]
      split
      · exact ⟨[], rfl⟩
      · exact ⟨_, List.append_assoc _ _ _⟩
    obtain ⟨later, calls⟩ := called
    exact ⟨uids, later, calls, owners⟩
  · obtain ⟨err, failed⟩ := (collectUIDs_listing entries).2 blocked
    simp [Manager.cleanExpiredUserData, getUIDsOfRunningProcesses, Except.bind, failed,
      Except.mapError]

/-! ## What a sweep reports -/

/-- The loop's `err` ends as what the last `CleanUser` returned, whatever those before it
returned; with no user it keeps the `err` it started with. -/
theorem cleanUsers_eq (cleanUser : String → Option GoError) (err : Option GoError)
    (users : List String) :
    cleanUsers cleanUser err users = (users.getLast?.map cleanUser).getD err := by
  induction users generalizing err with
  | nil => rfl
  | cons u rest ih =>
    rw [cleanUsers, ih]
    cases rest <;> simp [List.getLast?_cons]

/-- A sweep reports an error exactly when listing `/proc` fails, `CleanExpiredUsers`
fails, or the `CleanUser` of the last user it removed fails. -/
theorem cleanExpiredUserData_error (m : Manager) (opts : Options)
    (procDir : Except GoError (List DirEntry)) (cleanUser : String → Option GoError) :
    (m.cleanExpiredUserData opts procDir cleanUser).2.isSome =
      match getUIDsOfRunningProcesses procDir with
      | .error _ => true
      | .ok activeUIDs =>
        match cleanExpiredUsers m.cache activeUIDs opts.expirationDate with
        | .error _ => true
        | .ok (_, cleaned) => (cleaned.getLast?.bind cleanUser).isSome := by
  unfold Manager.cleanExpiredUserData
  split
  · rfl
  · dsimp only
    split
    · rfl
    · rw [cleanUsers_eq]
      cases List.getLast? _ <;> rfl

/-- `bob`, who last logged in one hour after the cutoff of a manager started at time 0. -/
def bobRecord : UserDB :=
  newUserDB "bob" 70001 70001 "" "/home/bob" "/bin/bash" (3600000000000 - defaultEntryExpiration)

/-- `alice` and `bob`, both logged in last before time 1 and owning no process. -/
def expiredCache : Db :=
  ⟨true, some [("70000", some aliceRecord), ("70001", some bobRecord)],
    some [("alice", some aliceRecord), ("bob", some bobRecord)], some [], some []⟩

/-- `localgroups.CleanUser` failing for `user` and succeeding for everyone else. -/
def cleanUserFailsFor (user name : String) : Option GoError :=
  if name = user then some (.host "gpasswd") else none

/-- A sweep with cutoff 1 and no process running, where removing `alice` from the local
groups fails. -/
def aliceFailsSweep : Manager × Option GoError :=
  Manager.cleanExpiredUserData ⟨expiredCache, false, []⟩ ⟨1, true, defaultCleanupInterval⟩ (.ok [])
    (cleanUserFailsFor "alice")

/-- The sweep removes `alice` and then `bob` from the local groups; removing `alice` fails,
removing `bob` succeeds, and the sweep reports no error. -/
theorem sweep_hides_clean_user_failure :
    aliceFailsSweep.1.calls =
        [.cleanExpiredUsers [] 1, .localGroupsCleanUser "alice", .localGroupsCleanUser "bob"] ∧
      cleanUserFailsFor "alice" "alice" = some (.host "gpasswd") ∧ aliceFailsSweep.2 = none := by
  decide

/-! ## `NewManager` and the cleanup routine -/

/-- What the host does while `NewManager` runs, once the cache is open: the time,
how the three steps of clearing a marked database end, the listing of `/proc`, and how
each `localgroups.CleanUser` ends. -/
structure Startup where
  now : Int
  cacheClear : Option GoError
  removeResult : Option GoError
  cleanResult : Option GoError
  procDir : Except GoError (List DirEntry)
  cleanUser : String → Option GoError

/-- `NewManager` from the opened cache `cache`, with the `.corrupted` marker present when
`dirtyFlag` holds: compute the options, clear a marked database, sweep once. -/
def newManager (cache : Db) (dirtyFlag : Bool) (args : List ManagerOption) (host : Startup) :
    Except GoError (Manager × Options) :=
  let opts := newOptions host.now args
  let m : Manager := ⟨cache, dirtyFlag, []⟩
  match if m.dirtyFlag then m.clear host.cacheClear host.removeResult host.cleanResult
    else (m, none) with
  | (_, some err) => .error (.describe "could not clear corrupted data" err)
  | (m, none) =>
    .ok (if opts.cleanOnNew then (m.cleanExpiredUserData opts host.procDir host.cleanUser).1 else m,
      opts)

/-- The loop of `NewManager` that opens the cache, with `left` tries left from try `i`:
`cache.New` ends with `tryNew i` on try `i`, and `cache.RemoveDb` with `removeDb i`. A
database that needs clearing is removed and the next try made; a failing
`localgroups.Clean` only logs. `none`: the loop ends with no cache. -/
def openCacheFrom (tryNew : Nat → Except GoError Db) (removeDb : Nat → Option GoError) :
    Nat → Nat → Except GoError (Option Db)
  | 0, _ => .ok none
  | left + 1, i =>
    match tryNew i with
    | .ok c => .ok (some c)
    | .error err =>
      if err.isNeedsClearing then
        match removeDb i with
        | some removeErr => .error (.describe "could not clear database" removeErr)
        | none => openCacheFrom tryNew removeDb left (i + 1)
      else .error err

/-- The cache `NewManager` opens, in its loop of two tries. -/
def openCache (tryNew : Nat → Except GoError Db) (removeDb : Nat → Option GoError) :
    Except GoError (Option Db) :=
  openCacheFrom tryNew removeDb 2 0

/-- What ends the wait of the cleanup routine's `select`. -/
inductive Wakeup
  /-- A request on `doClear`, with how `cache.Clear`, `os.Remove` of the marker and
  `localgroups.Clean` end. -/
  | doClear (cacheClear removeResult cleanResult : Option GoError)
  /-- `time.After(opts.cleanupInterval)` firing at time `now`, with the listing of
  `/proc` and how each `localgroups.CleanUser` ends. -/
  | interval (now : Int) (procDir : Except GoError (List DirEntry))
      (cleanUser : String → Option GoError)
  /-- `Stop` closing `quit`: the routine returns, and `Stop` then closes the cache. -/
  | quit

/-- The cleanup routine: the manager it works on, the options `NewManager` gave it,
and whether it has returned. -/
structure Routine where
  manager : Manager
  opts : Options
  stopped : Bool
deriving DecidableEq, Repr

/-- One turn of the routine's loop. -/
def Routine.step (r : Routine) (w : Wakeup) : Routine :=
  if r.stopped then r else
  match w with
  | .doClear cacheClear removeResult cleanResult =>
    { r with manager := (r.manager.clear cacheClear removeResult cleanResult).1 }
  | .interval _ procDir cleanUser =>
    { r with manager := (r.manager.cleanExpiredUserData r.opts procDir cleanUser).1 }
  | .quit =>
    { r with
      manager :=
        { r.manager with cache := r.manager.cache.close, calls := r.manager.calls ++ [.cacheClose] }
      stopped := true }

def Routine.run (r : Routine) (ws : List Wakeup) : Routine := ws.foldl Routine.step r

/-- The sweeps of a list of calls use the cutoff `cutoff`. -/
def SweepsUse (cutoff : Int) (calls : List Call) : Prop :=
  ∀ uids c, Call.cleanExpiredUsers uids c ∈ calls → c = cutoff

theorem sweepsUse_append {cutoff : Int} {calls more : List Call} :
    SweepsUse cutoff (calls ++ more) ↔ SweepsUse cutoff calls ∧ SweepsUse cutoff more := by
  simp only [SweepsUse, List.mem_append]
  exact ⟨fun h => ⟨fun u c m => h u c (.inl m), fun u c m => h u c (.inr m)⟩,
    fun h u c m => m.elim (h.1 u c) (h.2 u c)⟩

theorem newManager_opts {cache : Db} {dirtyFlag : Bool} {args : List ManagerOption}
    {host : Startup} {m : Manager} {opts : Options}
    (started : newManager cache dirtyFlag args host = .ok (m, opts)) :
    opts = newOptions host.now args := by
  simp only [newManager] at started
  split at started
  · cases started
  · injection started with started
    injection started with _ started
    exact started.symm

/-- Without `WithUserExpirationDate`, the routine's cutoff is fixed at start: six months
before `NewManager` ran, at every later sweep. -/
theorem newManager_cutoff {cache : Db} {dirtyFlag : Bool} {host : Startup} {m : Manager}
    {opts : Options} (started : newManager cache dirtyFlag [] host = .ok (m, opts)) :
    opts.expirationDate = host.now - defaultEntryExpiration := by
  rw [newManager_opts started]
  rfl

def bobCache : Db :=
  ⟨true, some [("70001", some bobRecord)], some [("bob", some bobRecord)], some [], some []⟩

/-- A manager started at time 0 with no process running, then one periodic sweep a
day later. -/
def bobRun : Except GoError Routine :=
  (newManager bobCache false [] ⟨0, none, none, none, .ok [], fun _ => none⟩).map fun (m, opts) =>
    (Routine.mk m opts false).run [.interval defaultCleanupInterval (.ok []) fun _ => none]

/-- The sweep a day after start still uses the cutoff computed at start, so `bob`, whose
last login is by then six months and 23 hours old and who owns no process, stays. -/
theorem sweep_keeps_expired_user :
    bobRecord.lastLogin < defaultCleanupInterval - defaultEntryExpiration ∧
    (bobRun.map fun r => ((r.manager.userByName none "bob").2, r.manager.calls)) =
      .ok (.ok (userEntryFromUserDB bobRecord.toUserPasswdShadow),
        [.cleanExpiredUsers [] (-defaultEntryExpiration),
          .cleanExpiredUsers [] (-defaultEntryExpiration)]) := by
  decide

end Authd.Users
