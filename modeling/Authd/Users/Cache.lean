import Mathlib.Data.List.Basic
import Mathlib.Data.String.Basic

/-!
# The identity store

The cache is a bbolt database. Its read path (`getUser`, `AllUsers`) is
translated from the source; its write path (`UpdateUserEntry`, `DeleteUser`,
`CleanExpiredUsers`), `getBucket` and `getFromBucket` are not in the source
and follow the spec's contract for them.

A stored value is a byte string that `json.Unmarshal` either decodes into a
record or rejects; `Stored α` keeps just that outcome, so quantifying over
`Stored α` is quantifying over every stored byte string. A bucket is a list of
key/value pairs in bbolt's key order, and a missing bucket is `none`.

Group membership is kept in the groups' member lists, which stand for the
`user_to_groups` and `group_to_users` indexes of the spec.

Results:
* `getUser_open`, `allUsers_error_iff`: how the two read paths classify
  errors: `getUser` joins `ErrNeedsClearing` only to corrupted content,
  `AllUsers` to every error of the transaction;
* `userByName_updateUserEntry`, `userByID_updateUserEntry`: after
  `UpdateUserEntry`, the reads find the user written, and every other user as
  before;
* `userByName_deleteUser`, `userByName_cleanExpiredUsers`: `DeleteUser` and
  `CleanExpiredUsers` leave `UserByName` alone for every name they do not remove.
-/

/-- Results compare constructor by constructor, as a derived instance would. -/
instance instDecidableEqExcept {ε α : Type _} [DecidableEq ε] [DecidableEq α] :
    DecidableEq (Except ε α)
  | .error a, .error b => decidable_of_iff (a = b) ⟨congrArg _, Except.error.inj⟩
  | .ok a, .ok b => decidable_of_iff (a = b) ⟨congrArg _, Except.ok.inj⟩
  | .error _, .ok _ => isFalse Except.noConfusion
  | .ok _, .error _ => isFalse Except.noConfusion

namespace Authd

theorem except_map_eq_ok {ε α β : Type} {f : α → β} {x : Except ε α} {b : β} :
    x.map f = .ok b ↔ ∃ a, x = .ok a ∧ f a = b := by
  cases x <;> simp [Except.map]

/-- The buckets `getBucket` may be asked for. -/
inductive BucketName
  | userByID
  | userByName
  | groupByID
  | groupByName
deriving DecidableEq, Repr

/-- The Go errors of the users package, as far as `errors.Is` and the manager
tell them apart. -/
inductive GoError
  /-- `cache.ErrNeedsClearing`. -/
  | needsClearing
  /-- `cache.NoDataFoundError{key, bucketName}`. -/
  | noDataFound (bucket : BucketName) (key : String)
  /-- `getBucket`: no bucket of that name. -/
  | noBucket (bucket : BucketName)
  /-- A stored value `json.Unmarshal` rejects. -/
  | unmarshal (bucket : BucketName) (key : String)
  /-- `bbolt.ErrDatabaseNotOpen`: the transaction could not be opened. -/
  | databaseNotOpen
  /-- `errors.New("empty username")`. -/
  | emptyUsername
  /-- `no group provided for user %s (%v)`. -/
  | noGroupProvided (user : String) (uid : Int)
  /-- `no gid provided for default group %q`. -/
  | noGidForDefaultGroup (group : String)
  /-- `empty group name for user %q`. -/
  | emptyGroupName (user : String)
  /-- An error a collaborator (the host's group files, `os`) returns. -/
  | host (what : String)
  /-- An error `errors.Is` matches with `fs.ErrNotExist`. -/
  | notExist
  /-- `could not get ownership of file %q`. -/
  | noOwnership (file : List UInt8)
  /-- `decorate.OnError(&err, "failed to update user %q", name)`. -/
  | failedToUpdateUser (user : String) (err : GoError)
  /-- `fmt.Errorf("...: %w", err)` and `decorate.OnError` with a fixed text. -/
  | wrap (context : String) (err : GoError)
  /-- `fmt.Errorf("...: %v", err)`: the text is kept, the error chain is not. -/
  | describe (context : String) (err : GoError)
  /-- `errors.Join(a, b)`. -/
  | join (a b : GoError)
deriving DecidableEq, Repr

/-- `errors.Is(err, cache.ErrNeedsClearing)`. -/
def GoError.isNeedsClearing : GoError → Bool
  | .needsClearing => true
  | .failedToUpdateUser _ err => err.isNeedsClearing
  | .wrap _ err => err.isNeedsClearing
  | .join a b => a.isNeedsClearing || b.isNeedsClearing
  | _ => false

/-- `errors.Is(err, cache.NoDataFoundError{})`: `NoDataFoundError.Is` accepts every
`NoDataFoundError`. -/
def GoError.isNoDataFound : GoError → Bool
  | .noDataFound .. => true
  | .failedToUpdateUser _ err => err.isNoDataFound
  | .wrap _ err => err.isNoDataFound
  | .join a b => a.isNoDataFound || b.isNoDataFound
  | _ => false

/-- `errors.Is(err, fs.ErrNotExist)`. -/
def GoError.isNotExist : GoError → Bool
  | .notExist => true
  | .failedToUpdateUser _ err => err.isNotExist
  | .wrap _ err => err.isNotExist
  | .join a b => a.isNotExist || b.isNotExist
  | _ => false

namespace Cache

/-- `UserPasswdShadow`: a user as NSS sees it. -/
structure UserPasswdShadow where
  name : String
  uid : Int
  gid : Int
  gecos : String
  dir : String
  shell : String
  lastPwdChange : Int
  maxPwdAge : Int
  pwdWarnPeriod : Int
  pwdInactivity : Int
  minPwdAge : Int
  expirationDate : Int
deriving DecidableEq, Repr

/-- `UserDB`: what the user buckets store. `lastLogin` is a `time.Time`, as
nanoseconds. -/
structure UserDB extends UserPasswdShadow where
  lastLogin : Int
deriving DecidableEq, Repr

/-- `GroupDB`, with the names of its members. -/
structure GroupDB where
  name : String
  gid : Int
  users : List String
deriving DecidableEq, Repr

/-- A stored value, by what `json.Unmarshal` makes of its bytes. -/
abbrev Stored (α : Type) := Option α

/-- A bucket: its keys and stored values in key order. -/
abbrev Bucket (α : Type) := List (String × Stored α)

/-- The database: whether it is open, and each bucket if it exists. -/
structure Db where
  isOpen : Bool
  userByID : Option (Bucket UserDB)
  userByName : Option (Bucket UserDB)
  groupByID : Option (Bucket GroupDB)
  groupByName : Option (Bucket GroupDB)
deriving DecidableEq, Repr

/-- The user buckets, by name. -/
def Db.userBucket (db : Db) : BucketName → Option (Bucket UserDB)
  | .userByID => db.userByID
  | .userByName => db.userByName
  | _ => none

/-- `db.View(fn)`: `fn` runs only if a read transaction can be opened. -/
def Db.view {α : Type} (db : Db) (fn : Db → Except GoError α) : Except GoError α :=
  if db.isOpen then fn db else .error .databaseNotOpen

/-- `Cache.Close`: bbolt's `db.Close()`; no transaction opens afterwards. -/
def Db.close (db : Db) : Db := { db with isOpen := false }

/-- `db.Update(fn)`: the new content `fn` returns is committed only if it succeeds. -/
def Db.update {α : Type} (db : Db) (fn : Db → Except GoError α) : Except GoError α :=
  if db.isOpen then fn db else .error .databaseNotOpen

/-- Modelled from the spec: `getBucket`, which fails when the bucket is missing. -/
def getBucket {α : Type} (name : BucketName) : Option (Bucket α) → Except GoError (Bucket α)
  | none => .error (.noBucket name)
  | some bucket => .ok bucket

/-- Modelled from the spec: `getFromBucket`, a `NoDataFoundError` for an absent
key and an unmarshal error for a value that does not decode. -/
def getFromBucket {α : Type} (name : BucketName) (bucket : Bucket α) (key : String) :
    Except GoError α :=
  match bucket.lookup key with
  | none => .error (.noDataFound name key)
  | some none => .error (.unmarshal name key)
  | some (some record) => .ok record

/-! ## The read path -/

/-- `getUser`: inside the transaction, a missing bucket and a value that does not
decode are joined with `ErrNeedsClearing`; an absent key is not. -/
def getUser (c : Db) (bucketName : BucketName) (key : String) : Except GoError UserDB :=
  c.view fun tx => do
    let bucket ← (getBucket bucketName (tx.userBucket bucketName)).mapError
      (.join .needsClearing)
    (getFromBucket bucketName bucket key).mapError fun err =>
      if err.isNoDataFound then err else .join .needsClearing err

/-- `Cache.UserByID`: the key is `strconv.Itoa(uid)`. -/
def userByID (c : Db) (uid : Int) : Except GoError UserPasswdShadow :=
  (getUser c .userByID (toString uid)).map UserDB.toUserPasswdShadow

/-- `Cache.UserByName`. -/
def userByName (c : Db) (name : String) : Except GoError UserPasswdShadow :=
  (getUser c .userByName name).map UserDB.toUserPasswdShadow

/-- `bucket.ForEach` over the users: stop at the first value that does not decode. -/
def decodeUsers : Bucket UserDB → Except GoError (List UserPasswdShadow)
  | [] => .ok []
  | (key, none) :: _ => .error (.unmarshal .userByID key)
  | (_, some e) :: rest => (decodeUsers rest).map (e.toUserPasswdShadow :: ·)

/-- `Cache.AllUsers`: every error of `View`, whether from inside the transaction or
from opening it, is joined with `ErrNeedsClearing`. -/
def allUsers (c : Db) : Except GoError (List UserPasswdShadow) :=
  (c.view fun tx => do
    let bucket ← getBucket .userByID tx.userByID
    decodeUsers bucket).mapError (.join .needsClearing)

/-- Modelled from the spec: `Cache.GroupByID`, a record or `NotFound`, and a decoding
failure treated as corruption. -/
def groupByID (c : Db) (gid : Int) : Except GoError GroupDB :=
  c.view fun tx => do
    let bucket ← (getBucket .groupByID tx.groupByID).mapError (.join .needsClearing)
    (getFromBucket .groupByID bucket (toString gid)).mapError fun err =>
      if err.isNoDataFound then err else .join .needsClearing err

/-- Modelled from the spec: `Cache.GroupByName`, as `groupByID`. -/
def groupByName (c : Db) (name : String) : Except GoError GroupDB :=
  c.view fun tx => do
    let bucket ← (getBucket .groupByName tx.groupByName).mapError (.join .needsClearing)
    (getFromBucket .groupByName bucket name).mapError fun err =>
      if err.isNoDataFound then err else .join .needsClearing err

/-- The content a lookup in bucket `b` at `key` examines is corrupted: the bucket is
missing, or the value at the key does not decode. -/
def lookupCorrupted (c : Db) (b : BucketName) (key : String) : Bool :=
  match c.userBucket b with
  | none => true
  | some bucket => bucket.lookup key == some none

/-- The content `AllUsers` examines is corrupted: the bucket is missing, or one of
its values does not decode. -/
def allCorrupted (c : Db) : Bool :=
  match c.userByID with
  | none => true
  | some bucket => bucket.any (·.2 == none)

theorem getUser_closed {c : Db} (closed : c.isOpen = false) (b : BucketName) (key : String) :
    getUser c b key = .error .databaseNotOpen := by
  simp [getUser, Db.view, closed]

/-- On an open database `getUser` fails with `ErrNeedsClearing` exactly on corrupted
content, and otherwise finds the user or reports the key absent. -/
theorem getUser_open {c : Db} (opened : c.isOpen = true) (b : BucketName) (key : String) :
    (lookupCorrupted c b key = true → ∃ err, getUser c b key = .error err ∧ err.isNeedsClearing) ∧
    (lookupCorrupted c b key = false →
      getUser c b key = .error (.noDataFound b key) ∨ ∃ u, getUser c b key = .ok u) := by
  simp only [getUser, Db.view, opened, if_true, lookupCorrupted]
  cases c.userBucket b with
  | none => simp [getBucket, Except.mapError, bind, Except.bind, GoError.isNeedsClearing]
  | some bucket =>
    simp only [getBucket, Except.mapError, bind, Except.bind, getFromBucket]
    rcases bucket.lookup key with _ | _ | u <;>
      simp [GoError.isNeedsClearing, GoError.isNoDataFound]

theorem decodeUsers_error_iff (bucket : Bucket UserDB) :
    (∃ err, decodeUsers bucket = .error err) ↔ bucket.any (·.2 == none) = true := by
  induction bucket with
  | nil => simp [decodeUsers]
  | cons entry rest ih =>
    obtain ⟨key, _ | u⟩ := entry
    · simp [decodeUsers]
    · cases h : decodeUsers rest <;> simp_all [decodeUsers, Except.map]

/-- `AllUsers` fails with `ErrNeedsClearing` whenever it fails: on corrupted content,
and on a database whose transaction could not be opened. -/
theorem allUsers_error_iff (c : Db) :
    (∃ err, allUsers c = .error err ∧ err.isNeedsClearing) ↔
      (!c.isOpen || allCorrupted c) = true := by
  cases opened : c.isOpen
  · simp [allUsers, Db.view, opened, Except.mapError, GoError.isNeedsClearing]
  · simp only [allUsers, Db.view, opened, if_true, allCorrupted, Bool.not_true, Bool.false_or]
    cases c.userByID with
    | none => simp [getBucket, bind, Except.bind, Except.mapError, GoError.isNeedsClearing]
    | some bucket =>
      rw [← decodeUsers_error_iff]
      simp only [getBucket, bind, Except.bind]
      cases decodeUsers bucket <;> simp [Except.mapError, GoError.isNeedsClearing]

/-! ## The write path -/

/-- Store `record` under `key`, keeping the keys in order. -/
def Bucket.put {α : Type} : Bucket α → String → α → Bucket α
  | [], key, record => [(key, some record)]
  | (k, v) :: rest, key, record =>
    if key = k then (key, some record) :: rest
    else if key < k then (key, some record) :: (k, v) :: rest
    else (k, v) :: put rest key record

def Bucket.delete {α : Type} (bucket : Bucket α) (key : String) : Bucket α :=
  bucket.filter (·.1 ≠ key)

/-- Drop `user` from the members of every group of the bucket. -/
def Bucket.dropMember (bucket : Bucket GroupDB) (user : String) : Bucket GroupDB :=
  bucket.map fun (k, v) => (k, v.map fun g => { g with users := g.users.filter (· ≠ user) })

/-- The four buckets, or the error a missing one raises. -/
def Db.buckets (tx : Db) :
    Except GoError (Bucket UserDB × Bucket UserDB × Bucket GroupDB × Bucket GroupDB) :=
  (do
    let byID ← getBucket .userByID tx.userByID
    let byName ← getBucket .userByName tx.userByName
    let groupsByID ← getBucket .groupByID tx.groupByID
    let groupsByName ← getBucket .groupByName tx.groupByName
    pure (byID, byName, groupsByID, groupsByName)).mapError (.join .needsClearing)

/-- Remove a user from both user buckets and from every group. -/
def Db.removeUser (tx : Db) (u : UserDB) : Db :=
  { tx with
    userByID := tx.userByID.map (·.delete (toString u.uid))
    userByName := tx.userByName.map (·.delete u.name)
    groupByID := tx.groupByID.map (·.dropMember u.name)
    groupByName := tx.groupByName.map (·.dropMember u.name) }

/-- Make `user` a member of the group `g`, merging with the members stored under its GID. -/
def Db.joinGroup (tx : Db) (user : String) (g : GroupDB) : Db :=
  let stored := ((tx.groupByID.getD []).lookup (toString g.gid)).join
  let record := { g with users := (stored.map GroupDB.users).getD [] ++ [user] }
  { tx with
    groupByID := tx.groupByID.map (·.put (toString g.gid) record)
    groupByName := tx.groupByName.map (·.put g.name record) }

/-- Modelled from the spec: `Cache.UpdateUserEntry`, one transaction that writes the
user under its UID and its name and makes it a member of exactly `groups`. If any
part fails, nothing is written. -/
def updateUserEntry (c : Db) (user : UserDB) (groups : List GroupDB) : Except GoError Db :=
  c.update fun tx => do
    let _ ← tx.buckets
    let tx := { tx with
      userByID := tx.userByID.map (·.put (toString user.uid) user)
      userByName := tx.userByName.map (·.put user.name user)
      groupByID := tx.groupByID.map (·.dropMember user.name)
      groupByName := tx.groupByName.map (·.dropMember user.name) }
    pure (groups.foldl (fun tx g => tx.joinGroup user.name g) tx)

/-- Modelled from the spec: `Cache.DeleteUser`, which removes the user from both keyings
and from every group; a missing user is not an error. -/
def deleteUser (c : Db) (uid : Int) : Except GoError Db :=
  c.update fun tx => do
    let (byID, _) ← tx.buckets
    match byID.lookup (toString uid) with
    | none => pure tx
    | some none => throw (.join .needsClearing (.unmarshal .userByID (toString uid)))
    | some (some u) => pure (tx.removeUser u)

/-- A user `CleanExpiredUsers` removes: last logged in before the cutoff, and owning
no running process. -/
def isExpired (activeUIDs : List UInt32) (cutoff : Int) (u : UserDB) : Bool :=
  decide (u.lastLogin < cutoff) && !(activeUIDs.any fun a => (a.toNat : Int) = u.uid)

/-- The decodable users of a bucket, or the error of the first one that is not. -/
def decodeUserDBs : Bucket UserDB → Except GoError (List UserDB)
  | [] => .ok []
  | (key, none) :: _ => .error (.join .needsClearing (.unmarshal .userByID key))
  | (_, some u) :: rest => (decodeUserDBs rest).map (u :: ·)

/-- Modelled from the spec: `Cache.CleanExpiredUsers`, which removes every user whose
last login is before `cutoff` and whose UID owns no running process, and returns
their names. -/
def cleanExpiredUsers (c : Db) (activeUIDs : List UInt32) (cutoff : Int) :
    Except GoError (Db × List String) :=
  c.update fun tx => do
    let (byID, _) ← tx.buckets
    let users ← decodeUserDBs byID
    let expired := users.filter (isExpired activeUIDs cutoff)
    pure (expired.foldl Db.removeUser tx, expired.map (·.name))

/-! ## Reading back what was written -/

@[simp] theorem Bucket.lookup_put_self {α : Type} (bucket : Bucket α) (key : String) (record : α) :
    (bucket.put key record).lookup key = some (some record) := by
  induction bucket with
  | nil => simp [Bucket.put, List.lookup_cons]
  | cons entry rest ih =>
    obtain ⟨k, v⟩ := entry
    simp only [Bucket.put]
    split_ifs with same before
    · simp [List.lookup_cons]
    · simp [List.lookup_cons]
    · simp [List.lookup_cons, beq_eq_false_iff_ne.mpr same, ih]

theorem Bucket.lookup_put_ne {α : Type} (bucket : Bucket α) {key k : String} (record : α)
    (other : k ≠ key) : (bucket.put key record).lookup k = bucket.lookup k := by
  have differ : (k == key) = false := beq_eq_false_iff_ne.mpr other
  induction bucket with
  | nil => simp [Bucket.put, List.lookup_cons, differ]
  | cons entry rest ih =>
    obtain ⟨k', v⟩ := entry
    simp only [Bucket.put]
    split_ifs with same before
    · subst same
      simp [List.lookup_cons, differ]
    · simp [List.lookup_cons, differ]
    · simp [List.lookup_cons, ih]

/-- Joining groups leaves the user buckets alone. -/
theorem Db.joinGroups_users (tx : Db) (user : String) (groups : List GroupDB) :
    (groups.foldl (fun tx g => tx.joinGroup user g) tx).isOpen = tx.isOpen ∧
    (groups.foldl (fun tx g => tx.joinGroup user g) tx).userByID = tx.userByID ∧
    (groups.foldl (fun tx g => tx.joinGroup user g) tx).userByName = tx.userByName := by
  induction groups generalizing tx with
  | nil => exact ⟨rfl, rfl, rfl⟩
  | cons g rest ih => exact ih (tx.joinGroup user g)

/-- The user buckets a transaction found. -/
theorem Db.buckets_ok {tx : Db}
    {found : Bucket UserDB × Bucket UserDB × Bucket GroupDB × Bucket GroupDB}
    (ok : tx.buckets = .ok found) : tx.userByID = some found.1 ∧ tx.userByName = some found.2.1 := by
  rcases tx with ⟨_, _ | byID, _ | byName, _ | groupsByID, _ | groupsByName⟩ <;>
    simp [Db.buckets, getBucket, bind, Except.bind, Except.mapError, pure, Except.pure] at ok ⊢
  subst ok
  exact ⟨rfl, rfl⟩

/-- What `UpdateUserEntry` commits to the user buckets of an open database: the user under
its UID and under its name, every other entry as it was. -/
theorem updateUserEntry_users {c c' : Db} {user : UserDB} {groups : List GroupDB}
    (updated : updateUserEntry c user groups = .ok c') :
    c.isOpen = true ∧ c'.isOpen = true ∧
      (∃ byID, c.userByID = some byID ∧ c'.userByID = some (byID.put (toString user.uid) user)) ∧
      ∃ byName, c.userByName = some byName ∧ c'.userByName = some (byName.put user.name user) := by
  unfold updateUserEntry Db.update at updated
  split_ifs at updated with opened
  rcases found : c.buckets with err | buckets
  · simp [found, bind, Except.bind] at updated
  · simp only [found, bind, Except.bind, pure, Except.pure, Except.ok.injEq] at updated
    subst updated
    obtain ⟨byID, byName⟩ := Db.buckets_ok found
    obtain ⟨sameOpen, sameByID, sameByName⟩ := Db.joinGroups_users
      { c with
        userByID := c.userByID.map (·.put (toString user.uid) user)
        userByName := c.userByName.map (·.put user.name user)
        groupByID := c.groupByID.map (·.dropMember user.name)
        groupByName := c.groupByName.map (·.dropMember user.name) } user.name groups
    exact ⟨opened, sameOpen.trans opened, ⟨_, byID, by rw [sameByID, byID]; rfl⟩,
      _, byName, by rw [sameByName, byName]; rfl⟩

/-- After `UpdateUserEntry`, the name bucket holds the record written under its name,
and every other name as before. -/
theorem getUser_updateUserEntry {c c' : Db} {user : UserDB} {groups : List GroupDB}
    (updated : updateUserEntry c user groups = .ok c') (name : String) :
    getUser c' .userByName name = if name = user.name then .ok user else getUser c .userByName name := by
  obtain ⟨wasOpen, opened, -, byName, before, after⟩ := updateUserEntry_users updated
  split_ifs with same
  · subst same
    simp [getUser, Db.view, opened, after, Db.userBucket, getBucket, bind, Except.bind,
      Except.mapError, getFromBucket]
  · simp [getUser, Db.view, opened, wasOpen, after, before, Db.userBucket, getBucket, bind,
      Except.bind, Except.mapError, getFromBucket, Bucket.lookup_put_ne _ _ same]

/-- After `UpdateUserEntry`, `UserByName` finds the user written under its name, and
every other name as before. -/
theorem userByName_updateUserEntry {c c' : Db} {user : UserDB} {groups : List GroupDB}
    (updated : updateUserEntry c user groups = .ok c') (name : String) :
    userByName c' name =
      if name = user.name then .ok user.toUserPasswdShadow else userByName c name := by
  rw [userByName, userByName, getUser_updateUserEntry updated]
  split_ifs <;> rfl

/-- After `UpdateUserEntry`, `UserByID` finds the user written under its UID, and every
other key as before. -/
theorem userByID_updateUserEntry {c c' : Db} {user : UserDB} {groups : List GroupDB}
    (updated : updateUserEntry c user groups = .ok c') (uid : Int) :
    userByID c' uid = if toString uid = toString user.uid then .ok user.toUserPasswdShadow
      else userByID c uid := by
  obtain ⟨wasOpen, opened, ⟨byID, before, after⟩, -⟩ := updateUserEntry_users updated
  split_ifs with same
  · simp [userByID, getUser, Db.view, opened, after, same, Db.userBucket, getBucket, bind,
      Except.bind, Except.mapError, getFromBucket, Except.map]
  · simp [userByID, getUser, Db.view, opened, wasOpen, after, before, Db.userBucket, getBucket,
      bind, Except.bind, Except.mapError, getFromBucket, Bucket.lookup_put_ne _ _ same]

/-! ## What the writes leave alone -/

theorem Bucket.lookup_delete_ne {α : Type} (bucket : Bucket α) {key k : String}
    (other : k ≠ key) : (bucket.delete key).lookup k = bucket.lookup k := by
  induction bucket with
  | nil => rfl
  | cons entry rest ih =>
    obtain ⟨k', v⟩ := entry
    by_cases dropped : k' = key
    · subst dropped
      simpa [Bucket.delete, List.lookup_cons, beq_false_of_ne other] using ih
    · simp only [Bucket.delete] at ih ⊢
      rw [List.filter_cons_of_pos (by simpa using dropped), List.lookup_cons, List.lookup_cons, ih]

/-- `UserByName` reads only whether the database is open and what its name bucket holds
at the name. -/
theorem userByName_congr {c c' : Db} {name : String} (opened : c'.isOpen = c.isOpen)
    (held : c'.userByName.map (·.lookup name) = c.userByName.map (·.lookup name)) :
    userByName c' name = userByName c name := by
  simp only [userByName, getUser, Db.view, opened, Db.userBucket]
  split_ifs
  · rcases hc : c.userByName with _ | bucket <;> rcases hc' : c'.userByName with _ | bucket' <;>
      simp_all [getBucket, getFromBucket, bind, Except.bind, Except.mapError]
  · rfl

theorem userByName_removeUser (tx : Db) {u : UserDB} {name : String} (other : u.name ≠ name) :
    userByName (tx.removeUser u) name = userByName tx name :=
  userByName_congr rfl (by
    simp only [Db.removeUser, Option.map_map]
    congr 1
    funext bucket
    exact Bucket.lookup_delete_ne bucket other.symm)

theorem userByName_foldl_removeUser (tx : Db) {users : List UserDB} {name : String}
    (kept : ∀ u ∈ users, u.name ≠ name) :
    userByName (users.foldl Db.removeUser tx) name = userByName tx name := by
  induction users generalizing tx with
  | nil => rfl
  | cons u rest ih =>
    rw [List.foldl_cons, ih _ fun u' member => kept u' (List.mem_cons_of_mem u member),
      userByName_removeUser tx (kept u (List.mem_cons_self u rest))]

/-- `DeleteUser` leaves `UserByName` alone for every name but the one of the user it
finds. -/
theorem userByName_deleteUser {c c' : Db} {uid : Int} {name : String}
    (deleted : deleteUser c uid = .ok c')
    (other : ∀ u, (c.userByID.getD []).lookup (toString uid) = some (some u) → u.name ≠ name) :
    userByName c' name = userByName c name := by
  unfold deleteUser Db.update at deleted
  split_ifs at deleted with opened
  rcases found : c.buckets with err | ⟨byID, rest⟩
  · simp [found, bind, Except.bind] at deleted
  obtain ⟨hasByID, -⟩ := Db.buckets_ok found
  simp only [found, bind, Except.bind] at deleted
  split at deleted
  · cases deleted
    rfl
  · cases deleted
  · next u stored =>
    cases deleted
    exact userByName_removeUser c (other u (by simpa [hasByID] using stored))

/-- `CleanExpiredUsers` leaves `UserByName` alone for every name it does not return. -/
theorem userByName_cleanExpiredUsers {c c' : Db} {activeUIDs : List UInt32} {cutoff : Int}
    {names : List String} {name : String}
    (cleaned : cleanExpiredUsers c activeUIDs cutoff = .ok (c', names)) (kept : name ∉ names) :
    userByName c' name = userByName c name := by
  unfold cleanExpiredUsers Db.update at cleaned
  split_ifs at cleaned with opened
  rcases found : c.buckets with err | ⟨byID, rest⟩
  · simp [found, bind, Except.bind] at cleaned
  rcases decoded : decodeUserDBs byID with err | users
  · simp [found, decoded, bind, Except.bind] at cleaned
  simp only [found, decoded, bind, Except.bind, pure, Except.pure, Except.ok.injEq,
    Prod.mk.injEq] at cleaned
  obtain ⟨rfl, rfl⟩ := cleaned
  exact userByName_foldl_removeUser c fun u member same =>
    kept (List.mem_map.mpr ⟨u, member, same⟩)

end Cache

end Authd
