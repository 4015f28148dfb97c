import ValidatorWatch.Monitor.Basic
import ValidatorWatch.Monitor.Gauges
import ValidatorWatch.Web.Query
/-!
# What the monitor answers

The monitor answers requests about itself: whether it lives, is ready and is healthy, its gauges,
and the validators with their history. Answers about validators stand in an envelope with a success
flag, a message and a time.

It is healthy if the last tick found every enabled validator healthy and all states are on disk.
-/

namespace ValidatorWatch.Web

open Document
open Time (Instant)

/-- What an answer carries: nothing of use, a document, or a text of some type. -/
inductive Content where
  | empty
  | document (v : Value)
  | page (type text : String)

/-- An answer: its status and what it carries. -/
structure Response where
  status : Nat
  content : Content

namespace Response

/-- A document with the status of success. -/
def ok (v : Value) : Response :=
  ⟨200, .document v⟩

/-- A status and nothing else. -/
def bare (status : Nat) : Response :=
  ⟨status, .empty⟩

/-- An envelope around data. -/
def success (now : Instant) (data : Value) : Response :=
  .ok (.obj [("success", .bool true), ("data", data), ("message", .null),
    ("timestamp", .str now.offsetStamp)])

/-- An envelope around a message. -/
def failure (now : Instant) (status : Nat) (message : String) : Response :=
  ⟨status, .document (.obj [("success", .bool false), ("data", .null), ("message", .str message),
    ("timestamp", .str now.offsetStamp)])⟩

end Response

namespace Content

/-- The type of what an answer carries. -/
def type : Content → String
  | .empty => ""
  | .document _ => "application/json"
  | .page type _ => type

/-- What is left of it if only the status was asked for: a text is empty, a document is none. -/
def withoutText : Content → Content
  | .page type _ => .page type ""
  | _ => .empty

end Content

/-! ## The monitor itself -/

/-- The snapshot, with a status that says whether all is well. -/
def health (m : Monitor) (now : Instant) : Response :=
  let s := m.view now
  ⟨if s.status = "healthy" && s.persistenceOk then 200 else 503, .document s.toValue⟩

/-- Whether a tick has ended yet. -/
def ready (m : Monitor) (now : Instant) : Response :=
  let ready := m.snapshot.lastTick.isSome
  ⟨if ready then 200 else 503,
    .document (.obj [("ready", .bool ready), ("timestamp", .str now.offsetStamp)])⟩

/-- That the monitor lives. -/
def live (now : Instant) : Response :=
  .ok (.obj [("alive", .bool true), ("timestamp", .str now.offsetStamp)])

/-- The type of the page of gauges. -/
def metricPageType : String := "text/plain; version=0.0.4"

/-- The gauges. -/
def metrics (m : Monitor) (now : Instant) : Response :=
  ⟨200, .page metricPageType (m.view now).metricPage⟩

/-- The snapshot in short. -/
def status (m : Monitor) (now : Instant) : Response :=
  let s := m.view now
  .success now (.obj [("status", .str s.status), ("uptime_seconds", .int s.uptimeSeconds),
    ("persistence_ok", .bool s.persistenceOk), ("validators_total", .nat s.validators.size),
    ("validators_enabled", .nat s.enabledCount), ("validators_healthy", .nat s.healthyCount),
    ("last_tick", .ofOption (fun t => .str t.offsetStamp) s.lastTick), ("network", .str s.network),
    ("network_health", .ofNameMap NetworkHealth.toValue s.networkHealth)])

/-! ## Validators -/

/-- The entries of all validators, or of the enabled ones only. -/
def validators (m : Monitor) (now : Instant) (query : List Char) : Response :=
  match queryValue? query "include_disabled" true readFlag? with
  | none => .bare 400
  | some includeDisabled =>
    .success now (.ofNameMap ValidatorSnapshot.toValue
      (m.snapshot.validators.filter fun _ v => includeDisabled || v.enabled))

/-- What is said of a validator that does not exist. -/
def notFound (now : Instant) (name : String) : Response :=
  .failure now 404 s!"Validator {name} not found"

/-- The entry of a validator. -/
def validator (m : Monitor) (now : Instant) (name : String) : Response :=
  match m.snapshot.validators.get? name with
  | some v => .success now v.toValue
  | none => notFound now name

/-- Records that are listed unless the query asks for more or fewer. -/
def defaultLimit : Nat := 100

/-- The most records that are listed; at least one is. -/
def maxLimit : Nat := 1000

/-- The history of a validator. -/
def validatorHistory (m : Monitor) (now : Instant) (name : String) (query : List Char) : Response :=
  match queryValue? query "limit" defaultLimit readCount? with
  | none => .bare 400
  | some limit =>
    if !m.settings.validators.contains name then notFound now name
    else
      match m.history with
      | .unavailable => .failure now 503 "History database is not available"
      | .closed => .failure now 500 "the history is closed"
      | .opened h =>
        .success now (.ofList CheckRecord.toValue (h.recent name (max 1 (min limit maxLimit))))

/-! ## Routes -/

/-- What answers a path, if anything does. -/
def route? (m : Monitor) (now : Instant) (t : Target) : Option Response :=
  match t.path.map String.ofList with
  | ["", "health"] => some (health m now)
  | ["", "ready"] => some (ready m now)
  | ["", "live"] => some (live now)
  | ["", "metrics"] => some (metrics m now)
  | ["", "api", "status"] => some (status m now)
  | ["", "api", "validators"] => some (validators m now t.query)
  | ["", "api", "validators", name] =>
    if name.isEmpty then none
    else
      match Text.decodePercent? name.toList with
      | some name => some (validator m now name)
      | none => some (.bare 400)
  | ["", "api", "validators", name, "history"] =>
    if name.isEmpty then none
    else
      match Text.decodePercent? name.toList with
      | some name => some (validatorHistory m now name t.query)
      | none => some (.bare 400)
  | _ => none

/-- The answer to a request. Every path may be asked for its options, and those that exist for their
content or the status alone. -/
def respond (m : Monitor) (now : Instant) (method target : String) : Response :=
  if method = "OPTIONS" then ⟨200, .page "" ""⟩
  else
    match route? m now (.ofString target) with
    | none => .bare 404
    | some r =>
      if method = "GET" then r
      else if method = "HEAD" then ⟨r.status, r.content.withoutText⟩
      else .bare 405

end ValidatorWatch.Web
