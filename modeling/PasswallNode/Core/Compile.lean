import Mathlib.Data.List.Sort
import PasswallNode.Foundation.Fallible
import PasswallNode.Foundation.JsonValue
import PasswallNode.Foundation.Text
import PasswallNode.Protocol.Documents

/-! What the compilers of both cores share: a snapshot of the desired state becomes one
configuration with an inbound for every enabled listener; the cores differ in the inbound. -/

namespace PasswallNode.Core

open Foundation Protocol

structure Snapshot where
  listeners : List Listener
  clients : List Client
  nowMS : Int
  deriving DecidableEq, Repr

structure Artifact where
  config : Bytes
  digest : String
  deriving DecidableEq, Repr

structure ObjectError where
  stream : Stream
  key : String
  code : String
  deriving DecidableEq, Repr

/-- An error with the object `errors.As` finds in it. -/
structure Failure where
  text : String
  object : Option ObjectError
  deriving DecidableEq, Repr

def Failure.new (text : String) : Failure := ⟨text, none⟩

def objectError (stream : Stream) (key code text : String) : Failure :=
  ⟨s!"core compile {stream.text} {key}: {text}", some ⟨stream, key, code⟩⟩

def objectRejected : String := "core_config_rejected"

def compileListenerError (key text : String) : Failure := objectError .config key objectRejected text

def compileClientError (key text : String) : Failure := objectError .roster key objectRejected text

structure ListenerSpec where
  enabled : Bool
  listen : String
  port : Int
  proto : String
  settings : String
  streamSettings : String
  sniffing : String
  allocate : String
  deriving DecidableEq, Repr

/-- Functions of the standard library the compilers call. -/
structure Stdlib where
  toLower : String → String
  toUpper : String → String
  equalFold : String → String → Bool
  splitHostPort : String → Except String (String × String)
  /-- `net.ParseIP(host)` is a loopback address. -/
  isLoopback : String → Bool
  /-- The number `strconv.Atoi` returns, and whether it returns no error. -/
  atoi : String → Int × Bool
  /-- `json.Unmarshal` into an untyped map; nothing for `null`. -/
  unmarshalObject : String → Except String (Option JsonObject)
  /-- `strictJSON` into a `listenerSpec`. -/
  decodeListener : Bytes → Except String ListenerSpec
  marshalIndent : Json → Except String Bytes
  sha256Hex : Bytes → String
  /-- The keys of a map in the order of a loop over it. -/
  rangeKeys : List String → List String
  mem_rangeKeys : ∀ keys key, key ∈ rangeKeys keys ↔ key ∈ keys

/-- A library to evaluate examples with: a listener is enabled if its configuration is not zero and listens on
its first byte. -/
def Stdlib.transparent : Stdlib where
  toLower := id
  toUpper := id
  equalFold := fun a b => decide (a = b)
  splitHostPort := fun endpoint =>
    match cut ':' endpoint.toList with
    | (host, some port) => .ok (String.ofList host, String.ofList port)
    | (_, none) => .error s!"address {endpoint}: missing port in address"
  isLoopback := fun host => decide (host = "127.0.0.1")
  atoi := fun text => (text.toInt?.getD 0, text.toInt?.isSome)
  unmarshalObject := fun _ => .ok none
  decodeListener := fun config =>
    .ok ⟨decide (config ≠ [0]), "", ((config.headD 0).toNat : Int), "vless", "", "", "", ""⟩
  marshalIndent := fun document => .ok (document.indented [])
  sha256Hex := checksum
  rangeKeys := id
  mem_rangeKeys := fun _ _ => Iff.rfl

def validateLoopbackEndpoint (std : Stdlib) (endpoint : String) : Except String Unit :=
  match std.splitHostPort endpoint with
  | .error text => .error text
  | .ok (host, port) =>
    rejectIf (std.isLoopback host = false ∨ port = "") "must be a loopback IP and port"

/-- `net.JoinHostPort`. -/
def joinHostPort (host port : String) : String :=
  if ':' ∈ host.toList then "[" ++ host ++ "]:" ++ port else host ++ ":" ++ port

inductive InboundError where
  | object (failure : Failure)
  | rejected (code text : String)
  | plain (text : String)
  deriving DecidableEq, Repr

def InboundError.promote (key : String) : InboundError → Failure
  | .object failure => failure
  | .rejected code text => objectError .config key code (code ++ ": " ++ text)
  | .plain text => compileListenerError key text

def failWith {α ε δ : Type} (wrap : ε → δ) (call : Except ε α) : Except δ α :=
  match call with
  | .ok a => .ok a
  | .error err => .error (wrap err)

@[simp] theorem failWith_eq_ok {α ε δ : Type} {wrap : ε → δ} {call : Except ε α} {a : α} :
    failWith wrap call = .ok a ↔ call = .ok a := by
  cases call <;> simp [failWith]

/-- `fmt.Errorf("context: %w", err)` around a step of an inbound. -/
def plainly {α : Type} (context : String) (call : Except String α) : Except InboundError α :=
  failWith (fun text => .plain (context ++ ": " ++ text)) call

def compileListener (std : Stdlib)
    (compileEnabled : Listener → ListenerSpec → List Client → Except InboundError (JsonObject × String))
    (listener : Listener) (clients : List Client) : Except InboundError (Option (JsonObject × String)) :=
  match std.decodeListener listener.config with
  | .error text => .error (.plain s!"decode listener config: {text}")
  | .ok spec =>
    if spec.enabled = false then .ok none
    else do
      let inbound ← compileEnabled listener spec clients
      .ok (some inbound)

def compileUsers (compileUser : Client → Except String JsonObject) :
    List Client → Except InboundError (List Json)
  | [] => .ok []
  | client :: rest =>
    match compileUser client with
    | .error text => .error (.object (compileClientError client.key text))
    | .ok user => do
        let users ← compileUsers compileUser rest
        .ok (.object user :: users)

/-- The client is enabled and not expired. The zero time, which the source exempts, lies
before every deadline. -/
def effective (nowMS : Int) (client : Client) : Bool :=
  client.enabled && !(decide (client.expiresAtMS > 0) && decide (nowMS ≥ client.expiresAtMS))

/-- The usernames taken so far with their clients, and the clients attached to each listener
in the order of the loop. -/
structure Grouping where
  usernames : List (String × String)
  attachments : List (String × Client)
  deriving DecidableEq, Repr

def clientsOf (attachments : List (String × Client)) (key : String) : List Client :=
  (attachments.filter (fun attachment => decide (attachment.1 = key))).map (·.2)

def requireRowID (parsed : Except String Nat) (fail : String → Failure) : Except Failure Unit :=
  match parsed with
  | .ok _ => .ok ()
  | .error text => .error (fail text)

section Group

-- `noun` is what the compiler calls a username in its errors.
variable (wire : Wire) (noun : String) (nowMS : Int)

def attachListener (client : Client) (state : List String × List (String × Client)) (key : String) :
    Except Failure (List String × List (String × Client)) := do
  rejectIf (key ∈ state.1) (compileClientError client.key s!"listener {key} is repeated")
  .ok (state.1 ++ [key], state.2 ++ [(key, client)])

def groupClient (state : Grouping) (client : Client) : Except Failure Grouping := do
  requireRowID (wire.clientRowID client.key) (compileClientError client.key)
  requireRowID (wire.subjectRowID client.subject) (compileClientError client.key)
  rejectIf (client.credentials.flow ≠ "" ∧ client.credentials.flow ≠ "xtls-rprx-vision")
    (compileClientError client.key s!"unsupported VLESS flow {client.credentials.flow.quote}")
  let username := trimSpace client.credentials.username
  rejectIf (username = "") (compileClientError client.key s!"{noun} is required for stable statistics")
  match state.usernames.find? (fun taken => decide (taken.1 = username)) with
  | some (_, other) => .error (compileClientError client.key s!"{noun} duplicates client {other}")
  | none =>
    let usernames := state.usernames ++ [(username, client.key)]
    if effective nowMS client = false then .ok { state with usernames := usernames }
    else do
      let (_, attachments) ← forEach (attachListener client) ([], state.attachments) client.listeners
      .ok ⟨usernames, attachments⟩

variable (compileInbound : Listener → List Client → Except InboundError (Option (JsonObject × String)))
  (attachments : List (String × Client))

/-- The listeners seen, the addresses bound with their listeners, and the inbounds built. -/
structure Assembly where
  seen : List String
  binds : List (String × String)
  inbounds : List JsonObject

def addListener (state : Assembly) (listener : Listener) : Except Failure Assembly := do
  requireRowID (wire.listenerRowID listener.key) (compileListenerError listener.key)
  rejectIf (listener.key ∈ state.seen) (compileListenerError listener.key "duplicate listener key")
  let seen := state.seen ++ [listener.key]
  match compileInbound listener (clientsOf attachments listener.key) with
  | .error err => .error (err.promote listener.key)
  | .ok none => .ok { state with seen := seen }
  | .ok (some (inbound, bind)) =>
    match state.binds.find? (fun taken => decide (taken.1 = bind)) with
    | some (_, other) =>
      .error (compileListenerError listener.key s!"bind {bind} conflicts with listener {other}")
    | none => .ok ⟨seen, state.binds ++ [(bind, listener.key)], state.inbounds ++ [inbound]⟩

end Group

def sortedListeners (snapshot : Snapshot) : List Listener :=
  snapshot.listeners.insertionSort (fun a b => a.key ≤ b.key)

def sortedClients (snapshot : Snapshot) : List Client :=
  snapshot.clients.insertionSort (fun a b => a.key ≤ b.key)

/-- The inbounds of a configuration. -/
def compileInbounds (std : Stdlib) (wire : Wire) (noun : String)
    (compileInbound : Listener → List Client → Except InboundError (Option (JsonObject × String)))
    (snapshot : Snapshot) : Except Failure (List JsonObject) := do
  let grouping ← forEach (groupClient wire noun snapshot.nowMS) ⟨[], []⟩ (sortedClients snapshot)
  let assembly ← forEach (addListener wire compileInbound grouping.attachments) ⟨[], [], []⟩
    (sortedListeners snapshot)
  match (std.rangeKeys (grouping.attachments.map (·.1))).find? (fun key => decide (key ∉ assembly.seen)) with
  | some key => .error (objectError .roster key "attachment_unknown_listener"
      s!"attachment names missing listener {key}")
  | none => .ok assembly.inbounds

def artifactOf (std : Stdlib) (engine : String) (document : Json) : Except Failure Artifact :=
  match std.marshalIndent document with
  | .error text => .error (.new s!"encode {engine} config: {text}")
  | .ok encoded => .ok ⟨encoded ++ [10], std.sha256Hex (encoded ++ [10])⟩

end PasswallNode.Core
