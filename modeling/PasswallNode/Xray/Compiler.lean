import PasswallNode.Core.Compile
import PasswallNode.Corecatalog

/-! The compiler of the Xray core. -/

namespace PasswallNode.Xray

open Foundation Protocol PasswallNode.Core

structure Compiler where
  apiListen : String
  logLevel : String
  accessLog : String
  errorLog : String
  coreVersion : String
  allowRestrictedReality : Bool
  deriving DecidableEq, Repr

def defaultAPIListen : String := "127.0.0.1:10085"
def realityClientRejected : String := "reality_client_incompatible"

def validLogLevel (level : String) : Bool :=
  level ∈ ["none", "error", "warning", "info", "debug"]

inductive RealityCompatibility where
  | broad
  | needsMinClientZero
  | restrictedClients
  deriving DecidableEq, Repr

def RealityCompatibility.text : RealityCompatibility → String
  | .broad => "broad"
  | .needsMinClientZero => "needs_min_client_zero"
  | .restrictedClients => "restricted_clients"

section Reality

variable (catalog : Corecatalog.Catalog) (std : Stdlib) (c : Compiler)

def realityCompatibilityFor (version : String) : Except String RealityCompatibility :=
  match Corecatalog.resolve catalog "xray" version with
  | .error err => .error err.text
  | .ok release =>
    if release.serverMinClientVer ≠ "" then .ok .needsMinClientZero
    else if release.tier = Corecatalog.tierRestricted then .ok .restrictedClients
    else if release.realityMihomo = Corecatalog.supportSupported ∧
        release.realitySingBox = Corecatalog.supportSupported then .ok .broad
    else .error s!"Xray {release.version} has no recognized REALITY policy"

def resolveCoreRelease : Except State.Error Corecatalog.Release :=
  let version := trimSpace c.coreVersion
  if version = "" then Corecatalog.recommended catalog "xray"
  else Corecatalog.resolve catalog "xray" version

/-- The object in a field; a field that is absent or null becomes an empty one. -/
def objectField (parent : JsonObject) (key : String) : Except String JsonObject :=
  match parent.get? key with
  | none => .ok []
  | some .null => .ok []
  | some (.object fields) => .ok fields
  | some _ => .error s!"{key} must be a JSON object"

/-- The stream settings as REALITY clients of the release need them. -/
def applyRealityCompatibility (release : Corecatalog.Release) (stream : JsonObject) :
    Except InboundError JsonObject :=
  if std.equalFold (trimSpace (Json.stringValue (stream.get? "security"))) "reality" = false then
    .ok stream
  else
    match realityCompatibilityFor catalog release.version with
    | .error text => .error (.plain s!"xray version {release.version.quote}: {text}")
    | .ok .broad => .ok stream
    | .ok .needsMinClientZero =>
      match objectField stream "realitySettings" with
      | .error text => .error (.plain text)
      | .ok settings => .ok (stream.set "realitySettings"
          (.object (settings.set "minClientVer" (.string release.serverMinClientVer))))
    | .ok .restrictedClients =>
      if c.allowRestrictedReality = true then .ok stream
      else .error (.rejected realityClientRejected
        (s!"Xray {release.version} REALITY compatibility is " ++ RealityCompatibility.restrictedClients.text ++
          "; Mihomo requires chrome plus support-x25519mlkem768 and sing-box is unsupported"))

end Reality

def jsonObject (std : Stdlib) (raw : String) : Except String JsonObject :=
  if trimSpace raw = "" then .ok []
  else
    match std.unmarshalObject raw with
    | .error text => .error text
    | .ok none => .error "must be a JSON object"
    | .ok (some object) => .ok object

def optionalJSONObject (std : Stdlib) (raw : String) : Except String (Option JsonObject) :=
  if trimSpace raw = "" then .ok none
  else
    match jsonObject std raw with
    | .error text => .error text
    | .ok object => .ok (some object)

def compileUser (protocolName : String) (client : Client) : Except String JsonObject :=
  let credential := client.credentials
  let user : JsonObject := [("email", .string credential.username), ("level", .int 0)]
  if trimSpace credential.username = "" then .error "username/email is required for stable statistics"
  else if protocolName = "vless" then
    if trimSpace credential.uuid = "" then .error "UUID is required for VLESS"
    else if credential.flow ≠ "" then
      .ok ((user.set "id" (.string credential.uuid)).set "flow" (.string credential.flow))
    else .ok (user.set "id" (.string credential.uuid))
  else if protocolName = "vmess" then
    if trimSpace credential.uuid = "" then .error "UUID is required for VMess"
    else .ok ((user.set "id" (.string credential.uuid)).set "alterId" (.int 0))
  else if protocolName = "trojan" then
    if credential.password = "" then .error "password is required for Trojan"
    else .ok (user.set "password" (.string credential.password))
  else if protocolName = "shadowsocks" then
    if credential.password = "" then .error "password is required for Shadowsocks"
    else .ok (user.set "password" (.string credential.password))
  else .ok user

section Compile

variable (catalog : Corecatalog.Catalog) (std : Stdlib) (wire : Wire) (c : Compiler)

def addStreamSettings (release : Corecatalog.Release) (raw : String) (inbound : JsonObject) :
    Except InboundError JsonObject := do
  match ← plainly "stream_settings" (optionalJSONObject std raw) with
  | none => .ok inbound
  | some stream => do
      let stream ← applyRealityCompatibility catalog std c release stream
      .ok (inbound.set "streamSettings" (.object stream))

def addObject (name raw : String) (inbound : JsonObject) : Except InboundError JsonObject := do
  match ← plainly name (optionalJSONObject std raw) with
  | none => .ok inbound
  | some object => .ok (inbound.set name (.object object))

def compileEnabled (release : Corecatalog.Release) (listener : Listener) (spec : ListenerSpec)
    (clients : List Client) : Except InboundError (JsonObject × String) := do
  rejectIf (spec.port < 1 ∨ spec.port > 65535) (.plain s!"port {spec.port} is outside 1..65535")
  let protocolName := std.toLower (trimSpace spec.proto)
  rejectIf (protocolName ∉ ["vless", "vmess", "trojan", "shadowsocks"])
    (.plain s!"protocol {spec.proto.quote} is not supported by the Xray compiler")
  let settings ← plainly "settings" (jsonObject std spec.settings)
  let users ← compileUsers (compileUser protocolName) clients
  let inbound : JsonObject :=
    [("tag", .string ("psp-" ++ listener.key)), ("port", .int spec.port),
      ("protocol", .string protocolName), ("settings", .object (settings.set "clients" (.array users)))]
  let listen := trimSpace spec.listen
  let inbound := if listen ≠ "" then inbound.set "listen" (.string listen) else inbound
  let inbound ← addStreamSettings catalog std c release spec.streamSettings inbound
  let inbound ← addObject std "sniffing" spec.sniffing inbound
  let inbound ← addObject std "allocate" spec.allocate inbound
  .ok (inbound, joinHostPort (if listen = "" then "0.0.0.0" else listen) (toString spec.port))

def compileInbound (release : Corecatalog.Release) (listener : Listener) (clients : List Client) :
    Except InboundError (Option (JsonObject × String)) :=
  compileListener std (compileEnabled catalog std c release) listener clients

def document (logLevel apiListen : String) (inbounds : List JsonObject) : Json :=
  let log : JsonObject := [("loglevel", .string logLevel)]
  let log := if c.accessLog ≠ "" then log.set "access" (.string c.accessLog) else log
  let log := if c.errorLog ≠ "" then log.set "error" (.string c.errorLog) else log
  .object [
    ("log", .object log),
    ("api", .object [("tag", .string "psp-api"), ("listen", .string apiListen),
      ("services", .texts ["StatsService"])]),
    ("stats", .object []),
    ("policy", .object [
      ("levels", .object [("0", .object [("statsUserUplink", .bool true),
        ("statsUserDownlink", .bool true), ("statsUserOnline", .bool true)])]),
      ("system", .object [("statsInboundUplink", .bool true), ("statsInboundDownlink", .bool true)])]),
    ("inbounds", .array (inbounds.map .object)),
    ("outbounds", .array [
      .object [("tag", .string "direct"), ("protocol", .string "freedom"), ("settings", .object [])],
      .object [("tag", .string "blocked"), ("protocol", .string "blackhole"), ("settings", .object [])]])]

/-- The loops of `Compile` and the configuration around their inbounds. -/
def compileDocument (release : Corecatalog.Release) (logLevel apiListen : String) (snapshot : Snapshot) :
    Except Failure Json := do
  let inbounds ← compileInbounds std wire "username/email" (compileInbound catalog std c release) snapshot
  .ok (document c logLevel apiListen inbounds)

def compile (snapshot : Snapshot) : Except Failure Artifact := do
  let release ← failWith (fun err => .new ("resolve Xray core release: " ++ err.text))
    (resolveCoreRelease catalog c)
  let apiListen := if trimSpace c.apiListen = "" then defaultAPIListen else trimSpace c.apiListen
  failWith (fun text => .new ("xray api listen: " ++ text)) (validateLoopbackEndpoint std apiListen)
  let logLevel := if trimSpace c.logLevel = "" then "warning" else trimSpace c.logLevel
  rejectIf (validLogLevel logLevel = false) (.new s!"xray log level {logLevel.quote} is invalid")
  let document ← compileDocument catalog std wire c release logLevel apiListen snapshot
  artifactOf std "xray" document

def usersOf (inbound : JsonObject) : Option Json :=
  (Json.mapValue (inbound.get? "settings")).get? "clients"

variable {catalog std c} {release : Corecatalog.Release} {raw name : String} {inbound next : JsonObject}

theorem addStreamSettings_get? (added : addStreamSettings catalog std c release raw inbound = .ok next)
    (other : name ≠ "streamSettings") : next.get? name = inbound.get? name := by
  obtain ⟨present, -, added⟩ := bind_eq_ok.mp added
  cases present with
  | none =>
    cases added
    rfl
  | some stream =>
    obtain ⟨compatible, -, same⟩ := bind_eq_ok.mp added
    cases same
    rw [JsonObject.get?_set, if_neg other]

theorem addObject_get? {field : String} (added : addObject std field raw inbound = .ok next) (other : name ≠ field) :
    next.get? name = inbound.get? name := by
  obtain ⟨present, -, added⟩ := bind_eq_ok.mp added
  cases present with
  | none =>
    cases added
    rfl
  | some object =>
    cases added
    rw [JsonObject.get?_set, if_neg other]

theorem compileEnabled_ok {listener : Listener} {spec : ListenerSpec} {clients : List Client} {bind : String}
    (done : compileEnabled catalog std c release listener spec clients = .ok (inbound, bind)) :
    inbound.get? "tag" = some (.string ("psp-" ++ listener.key)) ∧
    ∃ users, compileUsers (compileUser (std.toLower (trimSpace spec.proto))) clients = .ok users ∧
      usersOf inbound = some (.array users) := by
  simp only [compileEnabled, bind_eq_ok] at done
  obtain ⟨-, -, -, -, settings, -, users, built, streamed, addsStream, sniffed, addsSniffing,
    allocated, addsAllocate, same⟩ := done
  cases same
  have kept : ∀ name, name ∉ ["streamSettings", "sniffing", "allocate", "listen"] →
      inbound.get? name = JsonObject.get? [("tag", .string ("psp-" ++ listener.key)),
        ("port", .int spec.port), ("protocol", .string (std.toLower (trimSpace spec.proto))),
        ("settings", .object (settings.set "clients" (.array users)))] name := by
    intro name other
    simp only [List.mem_cons, List.not_mem_nil, or_false, not_or] at other
    rw [addObject_get? addsAllocate other.2.2.1, addObject_get? addsSniffing other.2.1,
      addStreamSettings_get? addsStream other.1]
    split
    · rw [JsonObject.get?_set, if_neg other.2.2.2]
    · rfl
  refine ⟨(kept "tag" (by decide)).trans rfl, users, built, ?_⟩
  have inSettings : inbound.get? "settings" = some (.object (settings.set "clients" (.array users))) :=
    (kept "settings" (by decide)).trans rfl
  rw [usersOf, inSettings]
  change (settings.set "clients" (.array users)).get? "clients" = _
  rw [JsonObject.get?_set, if_pos rfl]

end Compile

end PasswallNode.Xray
