import Authd.Users.Cache

/-!
# The user manager

`Manager` wraps the cache: its reads turn a cache error that `errors.Is`
matches with `ErrNeedsClearing` into a request to clear the database
(`shouldClearDb` → `requestClearDatabase` → `markCorrupted`), and `UpdateUser`
validates a user, writes it to the cache, then updates the host's local groups,
deleting the user from the cache again when that last step fails.

The manager's state is the cache, whether the `.corrupted` marker exists, and
the calls it has made to its collaborators, in order.

How `os.WriteFile` of the marker ends is an input of every operation that may request
a clear (`markResult`): a failed write only logs, and leaves the marker absent.

Results:
* `Manager.userByName_state`: a lookup of a user requests a clear exactly when the
  transaction opened and the bucket is missing or the value at the key does not
  decode;
* `Manager.allUsers_state`: `AllUsers` requests a clear when the bucket is
  missing, a value does not decode, or the transaction could not be opened;
* `allUsers_closed_requests_clear`: so on a closed database `AllUsers` marks the
  database while `UserByName` does not;
* `Manager.updateUser_visible`: after an `UpdateUser` that returns no error, the
  record stored under the name carries the call's login time, and `UserByName`
  returns the user written;
* `updateUser_deletes_returning_user`: a failing local-groups update deletes a
  user that was in the cache before the call;
* `updateUser_writes_split_groups`: `UpdateUser` rejects an invalid user without
  touching anything, writes the groups with a GID to the cache with the first as
  the primary group, and hands the names of the others to the local-groups update.
-/

namespace Authd.Users

open Cache

/-- Modelled from the spec: `UserEntry`, the passwd fields of a user. -/
structure UserEntry where
  name : String
  uid : Int
  gid : Int
  gecos : String
  dir : String
  shell : String
deriving DecidableEq, Repr

/-- Modelled from the spec: `userEntryFromUserDB`. -/
def userEntryFromUserDB (u : UserPasswdShadow) : UserEntry :=
  ⟨u.name, u.uid, u.gid, u.gecos, u.dir, u.shell⟩

/-- Modelled from the spec: `ShadowEntry`, the shadow fields of a user. -/
structure ShadowEntry where
  name : String
  lastPwdChange : Int
  maxPwdAge : Int
  pwdWarnPeriod : Int
  pwdInactivity : Int
  minPwdAge : Int
  expirationDate : Int
deriving DecidableEq, Repr

/-- Modelled from the spec: `shadowEntryFromUserDB`. -/
def shadowEntryFromUserDB (u : UserPasswdShadow) : ShadowEntry :=
  ⟨u.name, u.lastPwdChange, u.maxPwdAge, u.pwdWarnPeriod, u.pwdInactivity, u.minPwdAge,
    u.expirationDate⟩

/-- Modelled from the spec: `GroupEntry`. -/
structure GroupEntry where
  name : String
  gid : Int
  users : List String
deriving DecidableEq, Repr

/-- Modelled from the spec: `groupEntryFromGroupDB`. -/
def groupEntryFromGroupDB (g : GroupDB) : GroupEntry := ⟨g.name, g.gid, g.users⟩

/-- A call the manager makes to a collaborator. -/
inductive Call
  /-- `requestClearDatabase`: a request on `doClear`, taken by the cleanup routine or
  dropped after 10 ms. -/
  | clearRequested
  | localGroupsUpdate (user : String) (groups : List String)
  | cleanExpiredUsers (activeUIDs : List UInt32) (cutoff : Int)
  | localGroupsCleanUser (user : String)
  | localGroupsClean
  /-- `m.cache.Close()`, the last step of `Stop`. -/
  | cacheClose
deriving DecidableEq, Repr

/-- The manager: the cache, the `.corrupted` marker, and the calls made so far. -/
structure Manager where
  cache : Db
  dirtyFlag : Bool
  calls : List Call
deriving DecidableEq, Repr

/-- `GroupInfo`: a group as a broker describes it; one without a GID is a local group. -/
structure GroupInfo where
  name : String
  gid : Option Int
deriving DecidableEq, Repr

/-- `UserInfo`: a user as a broker describes it. -/
structure UserInfo where
  name : String
  uid : Int
  gecos : String
  dir : String
  shell : String
  groups : List GroupInfo
deriving DecidableEq, Repr

/-- Modelled from the spec: `cache.NewUserDB`, which stamps the record with the login
time `now`. The spec gives no value for the shadow fields; they keep Go's zero value. -/
def newUserDB (name : String) (uid gid : Int) (gecos dir shell : String) (now : Int) : UserDB :=
  { name, uid, gid, gecos, dir, shell, lastPwdChange := 0, maxPwdAge := 0, pwdWarnPeriod := 0,
    pwdInactivity := 0, minPwdAge := 0, expirationDate := 0, lastLogin := now }

/-- The loop over `u.Groups`: a group with a GID goes to the cache, one without is a
local group, and an empty name stops the loop. -/
def splitGroups (user : String) : List GroupInfo → Except GoError (List GroupDB × List String)
  | [] => .ok ([], [])
  | g :: rest =>
    if g.name = "" then .error (.emptyGroupName user) else
    (splitGroups user rest).map fun (groupContents, localGroups) =>
      match g.gid with
      | none => (groupContents, g.name :: localGroups)
      | some gid => (⟨g.name, gid, []⟩ :: groupContents, localGroups)

/-- The groups of `gs` that carry a GID, with it and in order. -/
def gidGroups (gs : List GroupInfo) : List GroupDB :=
  gs.filterMap fun g => g.gid.map fun gid => ⟨g.name, gid, []⟩

/-- The names of the groups of `gs` without a GID, in order. -/
def localGroupNames (gs : List GroupInfo) : List String :=
  (gs.filter fun g => g.gid.isNone).map (·.name)

/-- What `UpdateUser` checks before it writes: a name, a first group with a GID, and a
name for every group. -/
def UserInfo.Valid (u : UserInfo) : Prop :=
  u.name ≠ "" ∧ (u.groups.head?.bind (·.gid)).isSome ∧ ∀ g ∈ u.groups, g.name ≠ ""

instance : DecidablePred UserInfo.Valid := fun _ => inferInstanceAs (Decidable (_ ∧ _ ∧ _))

/-- The loop over `u.Groups` splits them into the groups with a GID and the local ones,
unless one has no name. -/
theorem splitGroups_eq (user : String) (gs : List GroupInfo) :
    splitGroups user gs = if ∀ g ∈ gs, g.name ≠ "" then .ok (gidGroups gs, localGroupNames gs)
      else .error (.emptyGroupName user) := by
  induction gs with
  | nil => simp [splitGroups, gidGroups, localGroupNames]
  | cons g rest ih =>
    by_cases empty : g.name = ""
    · simp [splitGroups, empty]
    rw [splitGroups, if_neg empty, ih]
    by_cases named : ∀ g ∈ rest, g.name ≠ ""
    · have all : ∀ g' ∈ g :: rest, g'.name ≠ "" := List.forall_mem_cons.2 ⟨empty, named⟩
      rw [if_pos named, if_pos all]
      rcases gid : g.gid <;> simp [gid, gidGroups, localGroupNames, Except.map]
    · have notAll : ¬ ∀ g' ∈ g :: rest, g'.name ≠ "" := fun all => named (List.forall_mem_cons.1 all).2
      rw [if_neg named, if_neg notAll]
      rfl

namespace Manager

/-- `markCorrupted`, where `os.WriteFile` of the marker ends with `markResult`: the write
is made only when the marker is absent, and a failed one leaves it absent. -/
def markCorrupted (m : Manager) (markResult : Option GoError) : Manager :=
  if m.dirtyFlag then m else
  match markResult with
  | none => { m with dirtyFlag := true }
  | some _ => m

@[simp] theorem markCorrupted_cache (m : Manager) (markResult : Option GoError) :
    (m.markCorrupted markResult).cache = m.cache := by
  unfold markCorrupted
  split_ifs <;> cases markResult <;> rfl

@[simp] theorem markCorrupted_calls (m : Manager) (markResult : Option GoError) :
    (m.markCorrupted markResult).calls = m.calls := by
  unfold markCorrupted
  split_ifs <;> cases markResult <;> rfl

/-- The marker is there after `markCorrupted` when it was before or the write succeeded. -/
@[simp] theorem markCorrupted_dirtyFlag (m : Manager) (markResult : Option GoError) :
    (m.markCorrupted markResult).dirtyFlag = (m.dirtyFlag || markResult.isNone) := by
  unfold markCorrupted
  split_ifs with marked <;> cases markResult <;> simp [marked]

/-- `requestClearDatabase`: mark the database, then offer a request on `doClear`. The
error of `markCorrupted` only logs. -/
def requestClearDatabase (m : Manager) (markResult : Option GoError) : Manager :=
  { m.markCorrupted markResult with calls := m.calls ++ [.clearRequested] }

/-- `shouldClearDb`: request a clear when `errors.Is(err, ErrNeedsClearing)`. -/
def shouldClearDb (m : Manager) (markResult : Option GoError) (err : GoError) :
    Manager × GoError :=
  (if err.isNeedsClearing then m.requestClearDatabase markResult else m, err)

/-- The shape shared by the manager's reads: a cache read, `shouldClearDb` on its
error, a conversion of its result. `markResult` is how the write of the marker ends, if
the read makes it. -/
def read {α β : Type} (m : Manager) (markResult : Option GoError) (result : Except GoError α)
    (convert : α → β) : Manager × Except GoError β :=
  match result with
  | .error err => ((m.shouldClearDb markResult err).1, .error (m.shouldClearDb markResult err).2)
  | .ok value => (m, .ok (convert value))

/-- `Manager.UserByName`. -/
def userByName (m : Manager) (markResult : Option GoError) (username : String) :
    Manager × Except GoError UserEntry :=
  m.read markResult (Cache.userByName m.cache username) userEntryFromUserDB

/-- `Manager.UserByID`. -/
def userByID (m : Manager) (markResult : Option GoError) (uid : Int) :
    Manager × Except GoError UserEntry :=
  m.read markResult (Cache.userByID m.cache uid) userEntryFromUserDB

/-- `Manager.ShadowByName`. -/
def shadowByName (m : Manager) (markResult : Option GoError) (username : String) :
    Manager × Except GoError ShadowEntry :=
  m.read markResult (Cache.userByName m.cache username) shadowEntryFromUserDB

/-- `Manager.AllUsers`. -/
def allUsers (m : Manager) (markResult : Option GoError) :
    Manager × Except GoError (List UserEntry) :=
  m.read markResult (Cache.allUsers m.cache) (·.map userEntryFromUserDB)

/-- `Manager.AllShadows`. -/
def allShadows (m : Manager) (markResult : Option GoError) :
    Manager × Except GoError (List ShadowEntry) :=
  m.read markResult (Cache.allUsers m.cache) (·.map shadowEntryFromUserDB)

/-- `Manager.GroupByName`. -/
def groupByName (m : Manager) (markResult : Option GoError) (groupname : String) :
    Manager × Except GoError GroupEntry :=
  m.read markResult (Cache.groupByName m.cache groupname) groupEntryFromGroupDB

/-- `Manager.GroupByID`. -/
def groupByID (m : Manager) (markResult : Option GoError) (gid : Int) :
    Manager × Except GoError GroupEntry :=
  m.read markResult (Cache.groupByID m.cache gid) groupEntryFromGroupDB

/-- A read changes the manager only by requesting a clear, and only when the cache
error matches `ErrNeedsClearing`. -/
theorem read_state {α β : Type} (m : Manager) (markResult : Option GoError)
    (result : Except GoError α) (convert : α → β) :
    (m.read markResult result convert).1 =
      match result with
      | .error err => if err.isNeedsClearing then m.requestClearDatabase markResult else m
      | .ok _ => m := by
  cases result <;> rfl

theorem read_getUser_state {α β : Type} (m : Manager) (markResult : Option GoError)
    (b : BucketName) (key : String) (f : UserDB → α) (convert : α → β) :
    (m.read markResult ((getUser m.cache b key).map f) convert).1 =
      if m.cache.isOpen && lookupCorrupted m.cache b key then m.requestClearDatabase markResult
      else m := by
  rw [read_state]
  cases opened : m.cache.isOpen
  · simp [getUser_closed opened, Except.map, GoError.isNeedsClearing]
  · cases corrupted : lookupCorrupted m.cache b key
    · rcases (getUser_open opened b key).2 corrupted with found | ⟨u, found⟩ <;>
        simp [found, Except.map, GoError.isNeedsClearing]
    · obtain ⟨err, found, clears⟩ := (getUser_open opened b key).1 corrupted
      simp [found, Except.map, clears]

/-- `UserByName` requests a clear exactly when the transaction opened and the bucket
is missing or the value at the name does not decode. -/
theorem userByName_state (m : Manager) (markResult : Option GoError) (name : String) :
    (m.userByName markResult name).1 =
      if m.cache.isOpen && lookupCorrupted m.cache .userByName name
      then m.requestClearDatabase markResult else m :=
  read_getUser_state m markResult .userByName name _ _

theorem read_allUsers_state {β : Type} (m : Manager) (markResult : Option GoError)
    (convert : List UserPasswdShadow → β) :
    (m.read markResult (Cache.allUsers m.cache) convert).1 =
      if !m.cache.isOpen || allCorrupted m.cache then m.requestClearDatabase markResult
      else m := by
  rw [read_state]
  by_cases corrupted : (!m.cache.isOpen || allCorrupted m.cache) = true
  · obtain ⟨err, found, clears⟩ := (allUsers_error_iff m.cache).2 corrupted
    simp [found, clears, corrupted]
  · rw [if_neg corrupted]
    rcases found : Cache.allUsers m.cache with err | _
    · have sound : err.isNeedsClearing = false := by
        by_contra clears
        exact corrupted ((allUsers_error_iff m.cache).1 ⟨err, found, by simpa using clears⟩)
      simp [sound]
    · rfl

/-- `AllUsers` requests a clear on corrupted content and also when the transaction
could not be opened at all. -/
theorem allUsers_state (m : Manager) (markResult : Option GoError) :
    (m.allUsers markResult).1 = if !m.cache.isOpen || allCorrupted m.cache
      then m.requestClearDatabase markResult else m :=
  read_allUsers_state m markResult _

theorem allShadows_state (m : Manager) (markResult : Option GoError) :
    (m.allShadows markResult).1 = if !m.cache.isOpen || allCorrupted m.cache
      then m.requestClearDatabase markResult else m :=
  read_allUsers_state m markResult _

/-! ## `UpdateUser` -/

/-- `UpdateUser`, before `decorate.OnError` wraps its error. `markResult` is how the write
of the marker ends, if one of its two `shouldClearDb` makes it. -/
def updateUserEntryAndGroups (m : Manager) (now : Int) (localGroupsResult markResult : Option GoError)
    (u : UserInfo) : Manager × Option GoError :=
  if u.name = "" then (m, some .emptyUsername) else
  match u.groups with
  | [] => (m, some (.noGroupProvided u.name u.uid))
  | first :: _ =>
    match first.gid, splitGroups u.name u.groups with
    | none, _ => (m, some (.noGidForDefaultGroup first.name))
    | some _, .error err => (m, some err)
    | some primaryGID, .ok (groupContents, localGroups) =>
      let userDB := newUserDB u.name u.uid primaryGID u.gecos u.dir u.shell now
      match updateUserEntry m.cache userDB groupContents with
      | .error err => ((m.shouldClearDb markResult err).1, some (m.shouldClearDb markResult err).2)
      | .ok cache =>
        let m := { m with cache, calls := m.calls ++ [.localGroupsUpdate u.name localGroups] }
        match localGroupsResult with
        | none => (m, none)
        | some err =>
          match deleteUser m.cache u.uid with
          | .ok cache => ({ m with cache }, some err)
          | .error deleteErr =>
            ((m.shouldClearDb markResult deleteErr).1,
              some (.join err (m.shouldClearDb markResult deleteErr).2))

/-- `Manager.UpdateUser` at time `now`, where `localgroups.Update` ends with
`localGroupsResult` and the write of the marker, if it is made, with `markResult`. -/
def updateUser (m : Manager) (now : Int) (localGroupsResult markResult : Option GoError)
    (u : UserInfo) : Manager × Option GoError :=
  let (m, err) := m.updateUserEntryAndGroups now localGroupsResult markResult u
  (m, err.map (.failedToUpdateUser u.name))

/-- An `UpdateUser` that returns no error is visible to NSS: the record stored under the
user's name is the one written, with the GID of its first group and the login time `now`,
and `UserByName` then returns that user. -/
theorem updateUser_visible {m : Manager} {now : Int} {localGroupsResult markResult : Option GoError}
    {u : UserInfo} (succeeded : (m.updateUser now localGroupsResult markResult u).2 = none)
    (lookupMark : Option GoError) :
    ∃ g rest gid, u.groups = g :: rest ∧ g.gid = some gid ∧
      getUser (m.updateUser now localGroupsResult markResult u).1.cache .userByName u.name =
        .ok (newUserDB u.name u.uid gid u.gecos u.dir u.shell now) ∧
      ((m.updateUser now localGroupsResult markResult u).1.userByName lookupMark u.name).2 =
        .ok (userEntryFromUserDB
          (newUserDB u.name u.uid gid u.gecos u.dir u.shell now).toUserPasswdShadow) := by
  unfold updateUser updateUserEntryAndGroups at *
  split_ifs at * with named
  · simp at succeeded
  rcases groups : u.groups with _ | ⟨g, rest⟩
  · simp [groups] at succeeded
  simp only [groups] at succeeded ⊢
  rcases primary : g.gid with _ | gid
  · simp [primary] at succeeded
  rcases split : splitGroups u.name (g :: rest) with err | ⟨groupContents, localGroups⟩
  · simp [primary, split] at succeeded
  rcases updated : updateUserEntry m.cache (newUserDB u.name u.uid gid u.gecos u.dir u.shell now)
      groupContents with err | cache
  · simp [primary, split, updated] at succeeded
  rcases localGroupsResult with _ | err
  · simp only [primary, split, updated]
    refine ⟨g, rest, gid, rfl, primary, by simp [getUser_updateUserEntry updated, newUserDB], ?_⟩
    simp [userByName, read, userByName_updateUserEntry updated, newUserDB]
  · -- the rollback path always reports the local-groups error
    simp [primary, split, updated] at succeeded
    split at succeeded <;> simp at succeeded

@[simp] theorem shouldClearDb_cache (m : Manager) (markResult : Option GoError) (err : GoError) :
    (m.shouldClearDb markResult err).1.cache = m.cache := by
  unfold shouldClearDb requestClearDatabase
  split_ifs <;> simp

/-- `shouldClearDb` adds at most a request to clear. -/
theorem shouldClearDb_calls (m : Manager) (markResult : Option GoError) (err : GoError) :
    ∃ more, (m.shouldClearDb markResult err).1.calls = m.calls ++ more ∧
      more ⊆ [.clearRequested] := by
  unfold shouldClearDb
  split_ifs
  · exact ⟨[.clearRequested], rfl, List.Subset.refl _⟩
  · exact ⟨[], by simp, List.nil_subset _⟩

/-- A user that fails a check of `UpdateUser` leaves the manager as it was. -/
theorem updateUser_unchecked {m : Manager} {now : Int} {localGroupsResult markResult : Option GoError}
    {u : UserInfo} (invalid : ¬ u.Valid) :
    (m.updateUser now localGroupsResult markResult u).1 = m := by
  unfold updateUser updateUserEntryAndGroups
  split_ifs with named
  · rfl
  rcases groups : u.groups with _ | ⟨g, rest⟩
  · rfl
  rcases primary : g.gid with _ | gid
  · simp only [primary]
  have unnamed : ¬ ∀ g' ∈ g :: rest, g'.name ≠ "" := fun all =>
    invalid ⟨named, by simp [groups, primary], groups ▸ all⟩
  simp only [splitGroups_eq, if_neg unnamed, primary]

end Manager

/-- A database that has been closed, with every bucket present and empty. -/
def closedCache : Db := ⟨false, some [], some [], some [], some []⟩

/-- On a closed database `UserByName` leaves the manager as it is, while `AllUsers`
and `AllShadows` request a clear and write the `.corrupted` marker, so that the
next start wipes a database whose content was sound. The transaction of `getUser` never
opens, so nothing it reads is corrupted; `AllUsers` joins `ErrNeedsClearing` to the
failure to open it. -/
theorem allUsers_closed_requests_clear :
    (Manager.userByName ⟨closedCache, false, []⟩ none "alice").1 = ⟨closedCache, false, []⟩ ∧
    (Manager.allUsers ⟨closedCache, false, []⟩ none).1 =
      ⟨closedCache, true, [.clearRequested]⟩ ∧
    (Manager.allShadows ⟨closedCache, false, []⟩ none).1 =
      ⟨closedCache, true, [.clearRequested]⟩ := by
  refine ⟨?_, ?_, ?_⟩
  · rw [Manager.userByName_state, if_neg (by decide)]
  · rw [Manager.allUsers_state, if_pos (by decide)]
    rfl
  · rw [Manager.allShadows_state, if_pos (by decide)]
    rfl

/-- `alice`, UID and GID 70000, who last logged in at time 0. -/
def aliceRecord : UserDB := newUserDB "alice" 70000 70000 "" "/home/alice" "/bin/bash" 0

def aliceGroup : GroupDB := ⟨"alice", 70000, ["alice"]⟩

/-- A cache holding `alice` and her group. -/
def aliceCache : Db :=
  ⟨true, some [("70000", some aliceRecord)], some [("alice", some aliceRecord)],
    some [("70000", some aliceGroup)], some [("alice", some aliceGroup)]⟩

/-- `alice` logging in again, now also in the local group `sudo`. -/
def returningAlice : UserInfo :=
  ⟨"alice", 70000, "", "/home/alice", "/bin/bash", [⟨"alice", some 70000⟩, ⟨"sudo", none⟩]⟩

/-- When the local-groups update fails for a returning user, `UpdateUser` returns an
error and the rollback through `DeleteUser` removes the user that was in the cache
before the call. -/
theorem updateUser_deletes_returning_user :
    let before : Manager := ⟨aliceCache, false, []⟩
    let after := before.updateUser 100 (some (.host "gpasswd")) none returningAlice
    after.2.isSome ∧
      (before.userByName none "alice").2 =
        .ok (userEntryFromUserDB aliceRecord.toUserPasswdShadow) ∧
      (after.1.userByName none "alice").2 = .error (.noDataFound .userByName "alice") := by
  decide

/-- `UpdateUser` writes nothing, to the cache or to the local groups, unless the user
passes its checks; when it writes, the cache gets the user with the GID of its first
group and the groups that carry a GID, in order, the first of them that group, and
`localgroups.Update` the names of the other groups, in order. -/
theorem updateUser_writes_split_groups (m : Manager) (now : Int)
    (localGroupsResult markResult : Option GoError) (u : UserInfo) :
    (¬ u.Valid → (m.updateUser now localGroupsResult markResult u).1 = m) ∧
    ∀ g rest gid, u.groups = g :: rest → g.gid = some gid → u.Valid →
      (gidGroups u.groups).head? = some ⟨g.name, gid, []⟩ ∧
      match updateUserEntry m.cache (newUserDB u.name u.uid gid u.gecos u.dir u.shell now)
        (gidGroups u.groups) with
      | .error err =>
        (m.updateUser now localGroupsResult markResult u).1 = (m.shouldClearDb markResult err).1
      | .ok cache => ∃ more, (m.updateUser now localGroupsResult markResult u).1.calls =
          m.calls ++ .localGroupsUpdate u.name (localGroupNames u.groups) :: more ∧
          more ⊆ [.clearRequested] ∧
          (localGroupsResult = none →
            (m.updateUser now localGroupsResult markResult u).1.cache = cache) := by
  refine ⟨Manager.updateUser_unchecked, fun g rest gid groups primary valid =>
    ⟨by simp [groups, gidGroups, primary], ?_⟩⟩
  obtain ⟨named, -, allNamed⟩ := valid
  unfold Manager.updateUser Manager.updateUserEntryAndGroups
  rw [groups] at allNamed ⊢
  simp only [if_neg named, primary, splitGroups_eq, if_pos allNamed]
  rcases updated : updateUserEntry m.cache (newUserDB u.name u.uid gid u.gecos u.dir u.shell now)
      (gidGroups (g :: rest)) with err | cache
  · rfl
  rcases localGroupsResult with _ | err
  · exact ⟨[], rfl, List.nil_subset _, fun _ => rfl⟩
  dsimp only
  split
  · exact ⟨[], rfl, List.nil_subset _, nofun⟩
  · next deleteErr _ =>
    obtain ⟨more, calls, requests⟩ := Manager.shouldClearDb_calls
      { m with cache, calls := m.calls ++ [.localGroupsUpdate u.name (localGroupNames (g :: rest))] }
      markResult deleteErr
    exact ⟨more, by simpa using calls, requests, nofun⟩

/-- `returningAlice` passes the checks: the cache gets `alice` with GID 70000 and her
group, `localgroups.Update` gets `sudo`. -/
theorem updateUser_writes_returning_alice :
    returningAlice.Valid ∧ gidGroups returningAlice.groups = [⟨"alice", 70000, []⟩] ∧
      localGroupNames returningAlice.groups = ["sudo"] ∧
      (gidGroups returningAlice.groups).head? = some ⟨"alice", 70000, []⟩ :=
  ⟨by decide, rfl, rfl, ((updateUser_writes_split_groups ⟨aliceCache, false, []⟩ 100 none none
    returningAlice).2 _ _ _ rfl rfl (by decide)).1⟩

/-- `returningAlice` logs in again at time 100 and the local groups are updated: her
record now carries that login, and NSS finds her with the GID of her first group. -/
theorem updateUser_visible_alice :
    (Manager.updateUser ⟨aliceCache, false, []⟩ 100 none none returningAlice).2 = none ∧
      ∃ g rest gid, returningAlice.groups = g :: rest ∧ g.gid = some gid ∧
        getUser (Manager.updateUser ⟨aliceCache, false, []⟩ 100 none none returningAlice).1.cache
            .userByName returningAlice.name =
          .ok (newUserDB returningAlice.name returningAlice.uid gid returningAlice.gecos
            returningAlice.dir returningAlice.shell 100) ∧
        ((Manager.updateUser ⟨aliceCache, false, []⟩ 100 none none returningAlice).1.userByName
          none returningAlice.name).2 =
          .ok (userEntryFromUserDB (newUserDB returningAlice.name returningAlice.uid gid
            returningAlice.gecos returningAlice.dir returningAlice.shell 100).toUserPasswdShadow) :=
  ⟨by decide, Manager.updateUser_visible (by decide) none⟩

end Authd.Users
