import Authd.Gdm.Model
import Authd.Go.Json

/-!
# Access verdicts

`Update` hands a broker's verdict to GDM in an `AuthEvent`, except `cancelled`, which
becomes an `isAuthenticatedCancelled` message, and a verdict it does not know, which it
sends back to itself as `denied` with a message naming it: a JSON object that
`fmt.Sprintf` builds around `json.Marshal` of `Access %q is not valid`.

The helpers are those of the PAM module: `strconv.Quote` and `json.Marshal` as
`Authd.Go.Strconv` and `Authd.Go.Json` model them, and `dataToMsg`, which is not under
src/ and is modelled from the spec.

Results:
* `invalidAccessMsg_message`: that message is an object whose `"message"` reads back as
  `Access %q is not valid` exactly, whatever bytes the verdict has;
* `invalid_access_denied`: while conversations go on, an unknown verdict comes back once
  as `denied` with that message, which then goes to GDM and does not come back;
* `stopped_ignores_invalid_access`: once conversations are stopped, `Update` drops it,
  as it drops every message (`update_stopped`).
-/

namespace Authd.Gdm

open Utf8 Json

/-- The key `dataToMsg` reads. -/
def messageKey : List UInt8 := "message".toUTF8.toList

/-- Modelled from the spec: `dataToMsg`, which is not under src/: the `"message"` field of
the JSON object a broker answers with, the last one when the key repeats, as a Go map
keeps it. Other data is an error. -/
def dataToMsg (data : List UInt8) : Except String (List UInt8) :=
  match readObject data with
  | none => .error "invalid JSON data from the broker"
  | some fields =>
    match fields.reverse.lookup messageKey with
    | none => .error "no message in the JSON data from the broker"
    | some msg => .ok msg

/-- The helpers `Update` calls, with `IsPrint`'s tables `isPrintTable`. -/
def goHelpers (isPrintTable : Char → Bool) : Helpers :=
  ⟨dataToMsg, Strconv.quote isPrintTable, marshalString⟩

/-- `fmt.Sprintf("Access %q is not valid", access)`. -/
def accessNotValid (isPrintTable : Char → Bool) (access : List UInt8) : List UInt8 :=
  "Access ".toUTF8.toList ++ Strconv.quote isPrintTable access ++ " is not valid".toUTF8.toList

theorem accessNotValid_valid (isPrintTable : Char → Bool) (access : List UInt8) :
    Valid (accessNotValid isPrintTable access) :=
  ((valid_of_ascii (s := "Access ".toUTF8.toList) (by rw [toList_toUTF8]; decide)).append
    (Strconv.quote_valid isPrintTable access)).append
      (valid_of_ascii (s := " is not valid".toUTF8.toList) (by rw [toList_toUTF8]; decide))

/-- The text `Update` writes around the marshalled text is an object with one member. -/
theorem invalidAccessMsg_eq (isPrintTable : Char → Bool) (access : List UInt8) :
    invalidAccessMsg (goHelpers isPrintTable) access =
      [0x7B] ++ marshalString messageKey ++ [0x3A, 0x20] ++
        marshalString (accessNotValid isPrintTable access) ++ [0x7D] := by
  have opening : "\x7b\"message\": ".toUTF8.toList =
      [0x7B] ++ marshalString messageKey ++ [0x3A, 0x20] := by
    simp only [messageKey, toList_toUTF8]
    decide
  have closing : "\x7d".toUTF8.toList = [0x7D] := by rw [toList_toUTF8]; decide
  simp only [invalidAccessMsg, goHelpers, opening, closing, accessNotValid, List.append_assoc]

/-- The message of an unknown verdict is an object whose `"message"` is
`Access %q is not valid`, read back exactly. -/
theorem invalidAccessMsg_message (isPrintTable : Char → Bool) (access : List UInt8) :
    readObject (invalidAccessMsg (goHelpers isPrintTable) access) =
      some [(messageKey, accessNotValid isPrintTable access)] := by
  rw [invalidAccessMsg_eq]
  exact readObject_marshalString (valid_of_ascii (by rw [messageKey, toList_toUTF8]; decide))
    (accessNotValid_valid _ _)

theorem dataToMsg_invalidAccessMsg (isPrintTable : Char → Bool) (access : List UInt8) :
    dataToMsg (invalidAccessMsg (goHelpers isPrintTable) access) =
      .ok (accessNotValid isPrintTable access) := by
  simp [dataToMsg, invalidAccessMsg_message]

/-- The verdicts `Update` knows. -/
def knownAccess : List (List UInt8) := [authGranted, authDenied, authCancelled, authRetry, authNext]

/-- An unknown verdict, with data `dataToMsg` accepts, comes back as `denied`. -/
theorem update_unknown_access (h : Helpers) {m : GdmModel} (reply : Reply)
    {access data authMsg : List UInt8} (live : m.conversationsStopped = false)
    (unknown : access ∉ knownAccess) (accepted : h.dataToMsg data = .ok authMsg) :
    update h m reply (.isAuthenticatedResultReceived access data) =
      (m, some (.sendEvent (some (.isAuthenticatedResultReceived authDenied
        (invalidAccessMsg h access)))), []) := by
  simp only [knownAccess, List.mem_cons, List.not_mem_nil, not_or] at unknown
  obtain ⟨granted, denied, cancelled, retry, next, -⟩ := unknown
  simp [update, live, accepted, granted, denied, cancelled, retry, next]

/-- `denied`, with data `dataToMsg` accepts, goes to GDM with the message read from it. -/
theorem update_denied (h : Helpers) {m : GdmModel} (reply : Reply) {data authMsg : List UInt8}
    (live : m.conversationsStopped = false) (accepted : h.dataToMsg data = .ok authMsg) :
    update h m reply (.isAuthenticatedResultReceived authDenied data) =
      (m, some (.sendEvent (emitEventSync reply.emit)), [.emit (.authEvent authDenied authMsg)]) := by
  have notCancelled : authDenied ≠ authCancelled := by
    simp only [authDenied, authCancelled, toList_toUTF8]
    decide
  simp [update, live, accepted, notCancelled]

theorem emitEventSync_ne_result (emitResult : Option String) (access msg : List UInt8) :
    emitEventSync emitResult ≠ some (.isAuthenticatedResultReceived access msg) := by
  cases emitResult <;> simp [emitEventSync]

/-- While conversations go on, an unknown verdict `access` with data `dataToMsg` accepts
comes back once, as `denied` with a JSON object whose `"message"` reads back as
`Access %q is not valid` for `access`; handled later, while conversations still go on,
that one goes to GDM as a `denied` `AuthEvent` with that text, and nothing comes back. -/
theorem invalid_access_denied (isPrintTable : Char → Bool) {m later : GdmModel}
    (reply laterReply : Reply) {access data authMsg : List UInt8}
    (live : m.conversationsStopped = false) (stillLive : later.conversationsStopped = false)
    (unknown : access ∉ knownAccess) (accepted : dataToMsg data = .ok authMsg) :
    ∃ diagnostic,
      update (goHelpers isPrintTable) m reply (.isAuthenticatedResultReceived access data) =
        (m, some (.sendEvent (some (.isAuthenticatedResultReceived authDenied diagnostic))), []) ∧
      readObject diagnostic = some [(messageKey, accessNotValid isPrintTable access)] ∧
      update (goHelpers isPrintTable) later laterReply
          (.isAuthenticatedResultReceived authDenied diagnostic) =
        (later, some (.sendEvent (emitEventSync laterReply.emit)),
          [.emit (.authEvent authDenied (accessNotValid isPrintTable access))]) ∧
      ∀ access' msg', emitEventSync laterReply.emit ≠
        some (.isAuthenticatedResultReceived access' msg') :=
  ⟨_, update_unknown_access _ reply live unknown accepted, invalidAccessMsg_message _ _,
    update_denied _ laterReply stillLive (dataToMsg_invalidAccessMsg _ _),
    emitEventSync_ne_result _⟩

/-- A verdict no broker gives. -/
def bogusAccess : List UInt8 := "bogus".toUTF8.toList

/-- A broker's answer whose message is `x`. -/
def brokerAnswer : List UInt8 := "\x7b\"message\": \"x\"\x7d".toUTF8.toList

theorem bogusAccess_unknown : bogusAccess ∉ knownAccess := by
  simp only [bogusAccess, knownAccess, authGranted, authDenied, authCancelled, authRetry, authNext,
    toList_toUTF8]
  decide

theorem dataToMsg_brokerAnswer : dataToMsg brokerAnswer = .ok "x".toUTF8.toList := by
  simp only [dataToMsg, brokerAnswer, messageKey, toList_toUTF8]
  rfl

theorem invalid_access_denied_bogus :
    ∃ diagnostic,
      update (goHelpers fun _ => true) ⟨false, false⟩ ⟨.ok [], none, .ok none, none⟩
          (.isAuthenticatedResultReceived bogusAccess brokerAnswer) =
        (⟨false, false⟩,
          some (.sendEvent (some (.isAuthenticatedResultReceived authDenied diagnostic))), []) ∧
      readObject diagnostic = some [(messageKey, accessNotValid (fun _ => true) bogusAccess)] ∧
      update (goHelpers fun _ => true) ⟨true, false⟩ ⟨.ok [], none, .ok none, none⟩
          (.isAuthenticatedResultReceived authDenied diagnostic) =
        (⟨true, false⟩, some (.sendEvent none),
          [.emit (.authEvent authDenied (accessNotValid (fun _ => true) bogusAccess))]) ∧
      ∀ access' msg', emitEventSync none ≠ some (.isAuthenticatedResultReceived access' msg') :=
  invalid_access_denied (fun _ => true) ⟨.ok [], none, .ok none, none⟩ ⟨.ok [], none, .ok none, none⟩
    rfl rfl bogusAccess_unknown dataToMsg_brokerAnswer

/-- Once conversations are stopped, `Update` drops an unknown verdict: nothing comes back
and nothing goes to GDM. -/
theorem stopped_ignores_invalid_access :
    bogusAccess ∉ knownAccess ∧ dataToMsg brokerAnswer = .ok "x".toUTF8.toList ∧
      update (goHelpers fun _ => true) ⟨false, true⟩ ⟨.ok [], none, .ok none, none⟩
          (.isAuthenticatedResultReceived bogusAccess brokerAnswer) =
        (⟨false, true⟩, none, []) :=
  ⟨bogusAccess_unknown, dataToMsg_brokerAnswer, update_stopped _ _ _ rfl⟩

end Authd.Gdm
