import PasswallNode.Core.Compile

/-! The compiler of the sing-box core, which translates the Xray-shaped settings of a listener. -/

namespace PasswallNode.Singbox

open Foundation Protocol PasswallNode.Core

structure Compiler where
  apiListen : String
  apiSecret : String
  logLevel : String
  deriving DecidableEq, Repr

def validLogLevel (level : String) : Bool :=
  level ∈ ["panic", "fatal", "error", "warn", "info", "debug", "trace"]

def firstString (value : Option Json) : String := (Json.stringSlice value).headD ""

def firstNonEmpty (values : List String) : String :=
  (values.find? (fun value => decide (trimSpace value ≠ ""))).getD ""

def putNonEmpty (target : JsonObject) (key value : String) : JsonObject :=
  if trimSpace value ≠ "" then target.set key (.string value) else target

def putWhen (condition : Prop) [Decidable condition] (target : JsonObject) (key : String) (value : Json) :
    JsonObject :=
  if condition then target.set key value else target

section Settings

variable (std : Stdlib)

def jsonObject (raw : String) : Except String JsonObject :=
  if trimSpace raw = "" ∨ trimSpace raw = "null" then .ok []
  else
    match std.unmarshalObject raw with
    | .error text => .error text
    | .ok none => .ok []
    | .ok (some object) => .ok object

def emptyJSON (raw : String) : Bool :=
  match jsonObject std raw with
  | .ok object => object.isEmpty
  | .error _ => false

def enabledSniffing (raw : String) : Bool :=
  match jsonObject std raw with
  | .error _ => true
  | .ok settings =>
    if settings = [] then false
    else Json.boolValue (settings.get? "enabled") || Json.boolValue (settings.get? "metadataOnly") ||
      Json.boolValue (settings.get? "routeOnly") ||
      decide ((Json.stringSlice (settings.get? "destOverride")).length > 0)

def splitTarget (target : String) : String × Int :=
  let target := trimSpace target
  if target = "" then ("", 0)
  else
    match std.splitHostPort target with
    | .ok (host, portText) => (host, (std.atoi portText).1)
    | .error _ =>
      match cutLast ':' target with
      | none => (trimChars ['[', ']'] target, 443)
      | some (before, after) =>
        if before ≠ "" ∧ (std.atoi after).2 = true then
          (trimChars ['[', ']'] before, (std.atoi after).1)
        else (trimChars ['[', ']'] target, 443)

/-- The network option of Shadowsocks; nothing stands for both. -/
def compileNetwork (value : Option Json) : Except String (List String) :=
  let raw := std.toLower (String.ofList ((Json.stringValue value).toList.filter (· ≠ ' ')))
  if raw ∈ ["", "tcp,udp", "udp,tcp"] then .ok []
  else if raw = "tcp" then .ok ["tcp"]
  else if raw = "udp" then .ok ["udp"]
  else .error "Shadowsocks network must be tcp, udp, or both"

def refuseProxyProtocol (settings : JsonObject) : Except String Unit :=
  rejectIf (Json.boolValue (settings.get? "acceptProxyProtocol") = true)
    "sing-box does not support Xray acceptProxyProtocol"

def compileTCP (settings : JsonObject) : Except String (Option JsonObject) := do
  refuseProxyProtocol settings
  let header := std.toLower (Json.stringValue ((Json.mapValue (settings.get? "header")).get? "type"))
  rejectIf (header ≠ "" ∧ header ≠ "none") s!"sing-box does not support Xray TCP header type {header.quote}"
  .ok none

def compileWebSocket (settings : JsonObject) : Except String (Option JsonObject) := do
  refuseProxyProtocol settings
  let out := putNonEmpty [("type", .string "ws")] "path" (Json.stringValue (settings.get? "path"))
  let headers := Json.mapValue (settings.get? "headers")
  let host := Json.stringValue (settings.get? "host")
  if headers ≠ [] then .ok (some (out.set "headers" (.object headers)))
  else if host ≠ "" then .ok (some (out.set "headers" (.object [("Host", .string host)])))
  else .ok (some out)

def compileGRPC (settings : JsonObject) : Except String (Option JsonObject) := do
  rejectIf (Json.stringValue (settings.get? "authority") ≠ "" ∨
      Json.boolValue (settings.get? "multiMode") = true)
    "sing-box does not support Xray gRPC authority or multiMode"
  .ok (some (putNonEmpty [("type", .string "grpc")] "service_name"
    (Json.stringValue (settings.get? "serviceName"))))

def compileHTTPUpgrade (settings : JsonObject) : Except String (Option JsonObject) := do
  refuseProxyProtocol settings
  let out := putNonEmpty [("type", .string "httpupgrade")] "host" (Json.stringValue (settings.get? "host"))
  let out := putNonEmpty out "path" (Json.stringValue (settings.get? "path"))
  let headers := Json.mapValue (settings.get? "headers")
  .ok (some (putWhen (headers ≠ []) out "headers" (.object headers)))

def compileHTTP (settings : JsonObject) : Except String (Option JsonObject) :=
  let out := putNonEmpty [("type", .string "http")] "path" (firstString (settings.get? "path"))
  let host := Json.stringSlice (settings.get? "host")
  .ok (some (putWhen (host ≠ []) out "host" (.texts host)))

def compileTransport (stream : JsonObject) : Except String (Option JsonObject) :=
  let network := std.toLower (trimSpace (Json.stringValue (stream.get? "network")))
  let settings (name : String) := Json.mapValue (stream.get? name)
  if network = "" ∨ network = "tcp" then compileTCP std (settings "tcpSettings")
  else if network = "raw" then compileTCP std (settings "rawSettings")
  else if network = "ws" then compileWebSocket (settings "wsSettings")
  else if network = "grpc" then compileGRPC (settings "grpcSettings")
  else if network = "httpupgrade" then compileHTTPUpgrade (settings "httpupgradeSettings")
  else if network = "http" ∨ network = "h2" then compileHTTP (settings "httpSettings")
  else .error s!"transport {network.quote} is not supported by the sing-box compiler"

def certificates (settings : JsonObject) : List Json :=
  match settings.get? "certificates" with
  | some (.array items) => items
  | _ => []

def compileCertificate (out : JsonObject) : List Json → Except String JsonObject
  | [] => .error "sing-box TLS inbound requires a certificate and private key"
  | first :: _ => do
      let certificate := Json.mapValue (some first)
      let certificatePath := Json.stringValue (certificate.get? "certificateFile")
      let keyPath := Json.stringValue (certificate.get? "keyFile")
      let certificatePEM := Json.stringSlice (certificate.get? "certificate")
      let keyPEM := Json.stringSlice (certificate.get? "key")
      rejectIf (decide (certificatePath = "") ≠ decide (keyPath = "") ∨
          certificatePEM.isEmpty ≠ keyPEM.isEmpty)
        "TLS certificate and key must be supplied together"
      if certificatePath ≠ "" then
        .ok ((out.set "certificate_path" (.string certificatePath)).set "key_path" (.string keyPath))
      else if certificatePEM ≠ [] then
        .ok ((out.set "certificate" (.texts certificatePEM)).set "key" (.texts keyPEM))
      else .error "sing-box TLS inbound requires a certificate and private key"

def compilePlainTLS (settings : JsonObject) : Except String JsonObject := do
  rejectIf (Json.boolValue (settings.get? "rejectUnknownSni") = true)
    "sing-box does not support rejectUnknownSni"
  let out := putNonEmpty [("enabled", .bool true)] "server_name"
    (Json.stringValue (settings.get? "serverName"))
  let out := putNonEmpty out "min_version" (Json.stringValue (settings.get? "minVersion"))
  let out := putNonEmpty out "max_version" (Json.stringValue (settings.get? "maxVersion"))
  let alpn := Json.stringSlice (settings.get? "alpn")
  compileCertificate (putWhen (alpn ≠ []) out "alpn" (.texts alpn)) (certificates settings)

def compileReality (settings : JsonObject) : Except String JsonObject := do
  rejectIf (Json.int64Value (settings.get? "xver") ≠ 0 ∨
      Json.stringValue (settings.get? "maxClientVer") ≠ "")
    "sing-box does not support Xray REALITY xver or client-version gates"
  let minimum := Json.stringValue (settings.get? "minClientVer")
  rejectIf (minimum ≠ "" ∧ minimum ≠ "1.0.0") "sing-box does not support Xray REALITY minClientVer"
  let (host, port) := splitTarget std (firstNonEmpty
    [Json.stringValue (settings.get? "target"), Json.stringValue (settings.get? "dest")])
  let privateKey := Json.stringValue (settings.get? "privateKey")
  let serverNames := Json.stringSlice (settings.get? "serverNames")
  rejectIf (host = "" ∨ port < 1 ∨ privateKey = "" ∨ serverNames = [])
    "sing-box REALITY requires server name, handshake target, and private key"
  let reality : JsonObject := [("enabled", .bool true),
    ("handshake", .object [("server", .string host), ("server_port", .int port)]),
    ("private_key", .string privateKey)]
  let shortIDs := Json.stringSlice (settings.get? "shortIds")
  let reality := putWhen (shortIDs ≠ []) reality "short_id" (.texts shortIDs)
  let difference := Json.int64Value (settings.get? "maxTimediff")
  let reality := putWhen (difference > 0) reality "max_time_difference" (.string s!"{difference}ms")
  .ok [("enabled", .bool true), ("server_name", .string (serverNames.headD "")),
    ("reality", .object reality)]

def compileTLS (protocolName : String) (stream : JsonObject) : Except String (Option JsonObject) := do
  let security := std.toLower (trimSpace (Json.stringValue (stream.get? "security")))
  rejectIf (protocolName = "shadowsocks" ∧ security ≠ "" ∧ security ≠ "none")
    "sing-box Shadowsocks does not support Xray TLS or REALITY transport security"
  if security = "" ∨ security = "none" then .ok none
  else if security = "tls" then do
    let out ← compilePlainTLS (Json.mapValue (stream.get? "tlsSettings"))
    .ok (some out)
  else if security = "reality" then do
    rejectIf (protocolName ≠ "vless") "sing-box REALITY is supported only for VLESS"
    let out ← compileReality std (Json.mapValue (stream.get? "realitySettings"))
    .ok (some out)
  else .error s!"security {security.quote} is not supported by the sing-box compiler"

def compileSocket (inbound stream : JsonObject) : Except String JsonObject := do
  let settings := Json.mapValue (stream.get? "sockopt")
  let tproxy := Json.stringValue (settings.get? "tproxy")
  rejectIf (Json.boolValue (settings.get? "acceptProxyProtocol") = true ∨
      Json.int64Value (settings.get? "tcpUserTimeout") > 0 ∨ (trimSpace tproxy ≠ "" ∧ tproxy ≠ "off"))
    "sing-box does not support the requested Xray inbound socket options"
  let mark := Json.int64Value (settings.get? "mark")
  let inbound := putWhen (mark > 0) inbound "routing_mark" (.int mark)
  let inbound := putWhen (Json.boolValue (settings.get? "tcpFastOpen") = true) inbound "tcp_fast_open"
    (.bool true)
  let interval := Json.int64Value (settings.get? "tcpKeepAliveInterval")
  let inbound := putWhen (interval > 0) inbound "tcp_keep_alive_interval" (.string s!"{interval}s")
  let idle := Json.int64Value (settings.get? "tcpKeepAliveIdle")
  .ok (putWhen (idle > 0) inbound "tcp_keep_alive" (.string s!"{idle}s"))

def compileUser (protocolName : String) (client : Client) : Except String JsonObject :=
  let credential := client.credentials
  let name := trimSpace credential.username
  let user : JsonObject := [("name", .string name)]
  if name = "" then .error "username is required for stable statistics"
  else if protocolName = "vless" ∨ protocolName = "vmess" then
    if trimSpace credential.uuid = "" then .error s!"UUID is required for {std.toUpper protocolName}"
    else .ok (putWhen (protocolName = "vless" ∧ credential.flow ≠ "")
      (user.set "uuid" (.string credential.uuid)) "flow" (.string credential.flow))
  else if protocolName = "trojan" ∨ protocolName = "shadowsocks" then
    if credential.password = "" then .error s!"password is required for {protocolName}"
    else .ok (user.set "password" (.string credential.password))
  else .ok user

end Settings

section Compile

variable (std : Stdlib) (wire : Wire) (c : Compiler)

def addUsers (protocolName : String) (settings : JsonObject) (users : List Json) (inbound : JsonObject) :
    Except String JsonObject :=
  if protocolName = "shadowsocks" then do
    let method := Json.stringValue (settings.get? "method")
    let password := Json.stringValue (settings.get? "password")
    rejectIf (startsWith "2022-blake3-" method = false ∨ password = "")
      "sing-box multi-user Shadowsocks requires a 2022 method and server password"
    let inbound := ((inbound.set "method" (.string method)).set "password" (.string password)).set
      "users" (.array users)
    let network ← compileNetwork std (settings.get? "network")
    .ok (putWhen (network ≠ []) inbound "network" (.texts network))
  else .ok (inbound.set "users" (.array users))

def addTransport (protocolName : String) (stream inbound : JsonObject) : Except String JsonObject :=
  if protocolName ≠ "shadowsocks" then do
    let transport ← compileTransport std stream
    .ok (putWhen (transport.isSome = true) inbound "transport" (.object (transport.getD [])))
  else do
    let network := std.toLower (trimSpace (Json.stringValue (stream.get? "network")))
    rejectIf (network ≠ "" ∧ network ≠ "tcp" ∧ network ≠ "raw")
      s!"sing-box Shadowsocks does not support Xray transport {network.quote}"
    .ok inbound

def addTLS (protocolName : String) (stream inbound : JsonObject) : Except String JsonObject := do
  let tls ← compileTLS std protocolName stream
  rejectIf (protocolName = "trojan" ∧ tls.isNone = true) "sing-box Trojan inbound requires TLS"
  .ok (putWhen (tls.isSome = true) inbound "tls" (.object (tls.getD [])))

def compileEnabled (listener : Listener) (spec : ListenerSpec) (clients : List Client) :
    Except InboundError (JsonObject × String) := do
  rejectIf (spec.port < 1 ∨ spec.port > 65535) (.plain s!"port {spec.port} is outside 1..65535")
  rejectIf (emptyJSON std spec.allocate = false)
    (.plain "sing-box does not support Xray inbound allocation settings")
  rejectIf (enabledSniffing std spec.sniffing = true)
    (.plain "sing-box 1.14 does not support legacy per-inbound sniffing settings")
  let protocolName := std.toLower (trimSpace spec.proto)
  rejectIf (protocolName ∉ ["vless", "vmess", "trojan", "shadowsocks"])
    (.plain s!"protocol {spec.proto.quote} is not supported by the sing-box compiler")
  let settings ← plainly "settings" (jsonObject std spec.settings)
  let listen := if trimSpace spec.listen = "" then "::" else trimSpace spec.listen
  let inbound : JsonObject :=
    [("type", .string protocolName), ("tag", .string ("psp-" ++ listener.key)),
      ("listen_port", .int spec.port), ("listen", .string listen)]
  let users ← compileUsers (compileUser std protocolName) clients
  let inbound ← failWith .plain (addUsers std protocolName settings users inbound)
  let stream ← plainly "stream_settings" (jsonObject std spec.streamSettings)
  let inbound ← failWith .plain (addTransport std protocolName stream inbound)
  let inbound ← failWith .plain (addTLS std protocolName stream inbound)
  let inbound ← failWith .plain (compileSocket inbound stream)
  .ok (inbound, joinHostPort listen (toString spec.port))

def compileInbound (listener : Listener) (clients : List Client) :
    Except InboundError (Option (JsonObject × String)) :=
  compileListener std (compileEnabled std) listener clients

def document (logLevel apiHost : String) (apiPort : Int) (inbounds : List JsonObject) : Json :=
  .object [
    ("log", .object [("level", .string logLevel)]),
    ("services", .array [.object [("type", .string "api"), ("tag", .string "psp-api"),
      ("listen", .string apiHost), ("listen_port", .int apiPort), ("secret", .string c.apiSecret)]]),
    ("inbounds", .array (inbounds.map .object)),
    ("outbounds", .array [
      .object [("type", .string "direct"), ("tag", .string "direct")],
      .object [("type", .string "block"), ("tag", .string "blocked")]]),
    ("route", .object [("final", .string "direct")])]

/-- The loops of `Compile` and the configuration around their inbounds. -/
def compileDocument (logLevel apiHost : String) (apiPort : Int) (snapshot : Snapshot) :
    Except Failure Json := do
  let inbounds ← compileInbounds std wire "username" (compileInbound std) snapshot
  .ok (document c logLevel apiHost apiPort inbounds)

def apiEndpoint (apiListen : String) : String × Int :=
  match std.splitHostPort apiListen with
  | .ok (host, portText) => (host, (std.atoi portText).1)
  | .error _ => ("", 0)

def compile (snapshot : Snapshot) : Except Failure Artifact := do
  let apiListen := trimSpace c.apiListen
  failWith (fun text => .new ("sing-box API listen: " ++ text)) (validateLoopbackEndpoint std apiListen)
  rejectIf (trimSpace c.apiSecret ≠ c.apiSecret ∨ c.apiSecret.utf8ByteSize < 32)
    (.new "sing-box API secret must be at least 32 canonical characters")
  let logLevel := if trimSpace c.logLevel = "" then "warn" else trimSpace c.logLevel
  rejectIf (validLogLevel logLevel = false) (.new s!"sing-box log level {logLevel.quote} is invalid")
  let (apiHost, apiPort) := apiEndpoint std apiListen
  let document ← compileDocument std wire c logLevel apiHost apiPort snapshot
  artifactOf std "sing-box" document

def usersOf (inbound : JsonObject) : Option Json := inbound.get? "users"

variable {std} {name protocolName : String} {inbound next stream : JsonObject}

theorem putWhen_get? {condition : Prop} [Decidable condition] {target : JsonObject} {key : String} {value : Json}
    (other : name ≠ key) : (putWhen condition target key value).get? name = target.get? name := by
  unfold putWhen
  split
  · rw [JsonObject.get?_set, if_neg other]
  · rfl

theorem addUsers_get? {settings : JsonObject} {users : List Json}
    (added : addUsers std protocolName settings users inbound = .ok next) :
    next.get? "users" = some (.array users) ∧ next.get? "tag" = inbound.get? "tag" := by
  unfold addUsers at added
  split at added
  · simp only [bind_eq_ok] at added
    obtain ⟨-, -, network, -, same⟩ := added
    cases same
    constructor
    · rw [putWhen_get? (by decide), JsonObject.get?_set, if_pos rfl]
    · rw [putWhen_get? (by decide), JsonObject.get?_set, if_neg (by decide), JsonObject.get?_set,
        if_neg (by decide), JsonObject.get?_set, if_neg (by decide)]
  · cases added
    exact ⟨by rw [JsonObject.get?_set, if_pos rfl], by rw [JsonObject.get?_set, if_neg (by decide)]⟩

theorem addTransport_get? (added : addTransport std protocolName stream inbound = .ok next)
    (other : name ≠ "transport") : next.get? name = inbound.get? name := by
  unfold addTransport at added
  split at added
  · obtain ⟨transport, -, same⟩ := bind_eq_ok.mp added
    cases same
    exact putWhen_get? other
  · obtain ⟨-, -, same⟩ := bind_eq_ok.mp added
    cases same
    rfl

theorem addTLS_get? (added : addTLS std protocolName stream inbound = .ok next) (other : name ≠ "tls") :
    next.get? name = inbound.get? name := by
  simp only [addTLS, bind_eq_ok] at added
  obtain ⟨tls, -, -, -, same⟩ := added
  cases same
  exact putWhen_get? other

theorem compileSocket_get? (added : compileSocket inbound stream = .ok next)
    (other : name ∉ ["routing_mark", "tcp_fast_open", "tcp_keep_alive_interval", "tcp_keep_alive"]) :
    next.get? name = inbound.get? name := by
  obtain ⟨-, -, same⟩ := bind_eq_ok.mp added
  cases same
  simp only [List.mem_cons, List.not_mem_nil, or_false, not_or] at other
  rw [putWhen_get? other.2.2.2, putWhen_get? other.2.2.1, putWhen_get? other.2.1, putWhen_get? other.1]

theorem compileEnabled_ok {listener : Listener} {spec : ListenerSpec} {clients : List Client} {bind : String}
    (done : compileEnabled std listener spec clients = .ok (inbound, bind)) :
    inbound.get? "tag" = some (.string ("psp-" ++ listener.key)) ∧
    ∃ users, compileUsers (compileUser std (std.toLower (trimSpace spec.proto))) clients = .ok users ∧
      usersOf inbound = some (.array users) := by
  simp only [compileEnabled, bind_eq_ok, failWith_eq_ok] at done
  obtain ⟨-, -, -, -, -, -, -, -, settings, -, users, built, withUsers, addsUsers, stream, -,
    transported, addsTransport, secured, addsTLS, socketed, addsSocket, same⟩ := done
  cases same
  have kept : ∀ name, name = "users" ∨ name = "tag" → inbound.get? name = withUsers.get? name := by
    rintro name (rfl | rfl)
    all_goals
      rw [compileSocket_get? addsSocket (by decide), addTLS_get? addsTLS (by decide),
        addTransport_get? addsTransport (by decide)]
  obtain ⟨listed, tagged⟩ := addUsers_get? addsUsers
  exact ⟨(kept "tag" (Or.inr rfl)).trans tagged, users, built, (kept "users" (Or.inl rfl)).trans listed⟩

end Compile

end PasswallNode.Singbox
