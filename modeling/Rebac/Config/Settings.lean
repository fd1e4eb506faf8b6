import Rebac.Record.Shape

namespace Rebac

open Record

/-!
# Settings

The settings of the process as records. Every field that is not given has the default of its
structure; the shapes say the same defaults to the readers.

* `Config` is all settings together.
* `Config.Shutdown.grace` is how long a server may take to stop, `none` when it may take forever.
-/

namespace Config

/-- TLS for one listener. -/
structure Tls where
  /-- Whether the listener speaks TLS. -/
  enabled : Bool := false
  /-- The file of the certificate chain. -/
  certPath : String := ""
  /-- The file of the private key. -/
  keyPath : String := ""
  /-- The name that the certificate is checked against when the process dials itself. -/
  serverName : String := "localhost"
  deriving DecidableEq

instance : Record Tls where
  title := "TlsSettings"
  fields := .ofList [
    ("enabled", .one .flag false), ("cert_path", .text), ("key_path", .text),
    ("server_name", .one .text "localhost")]
  unpack s := (s.enabled, s.certPath, s.keyPath, s.serverName, ())
  pack c := ⟨c.1, c.2.1, c.2.2.1, c.2.2.2.1⟩
  pack_unpack _ := rfl
  unpack_pack _ := rfl

/-- The primary RPC listener. -/
structure Grpc where
  /-- The port, zero for any free one. -/
  port : UInt16 := 3478
  /-- TLS for both RPC servers. -/
  tls : Tls := {}
  deriving DecidableEq

instance : Record Grpc where
  title := "GrpcSettings"
  fields := .ofList [("port", .one (.integer .u16) (3478 : UInt16)), ("tls", .part Tls)]
  unpack s := (s.port, Record.unpack s.tls, ())
  pack c := ⟨c.1, Record.pack c.2.1⟩
  pack_unpack _ := rfl
  unpack_pack _ := rfl

/-- The HTTP gateway. -/
structure Http where
  /-- Whether the gateway is started. -/
  enabled : Bool := true
  /-- The port, zero for any free one. -/
  port : UInt16 := 3476
  /-- TLS for the gateway. -/
  tls : Tls := {}
  /-- The origins that may send requests from a browser; a star stands for any. -/
  corsAllowedOrigins : List String := ["*"]
  /-- The headers that such a request may carry; a star stands for any. -/
  corsAllowedHeaders : List String := ["*"]
  deriving DecidableEq

instance : Record Http where
  title := "HttpSettings"
  fields := .ofList [
    ("enabled", .one .flag true), ("port", .one (.integer .u16) (3476 : UInt16)),
    ("tls", .part Tls), ("cors_allowed_origins", .many .text ["*"]),
    ("cors_allowed_headers", .many .text ["*"])]
  unpack s := (s.enabled, s.port, Record.unpack s.tls, s.corsAllowedOrigins, s.corsAllowedHeaders, ())
  pack c := ⟨c.1, c.2.1, Record.pack c.2.2.1, c.2.2.2.1, c.2.2.2.2.1⟩
  pack_unpack _ := rfl
  unpack_pack _ := rfl

/-- How long the servers may take to stop. -/
structure Shutdown where
  /-- The seconds after which the gateway is given up. -/
  httpTimeoutSecs : UInt64 := 5
  /-- The seconds after which an RPC server is given up; zero waits forever. -/
  rpcGracePeriodSecs : UInt64 := 30
  deriving DecidableEq

instance : Record Shutdown where
  title := "ShutdownSettings"
  fields := .ofList [
    ("http_timeout_secs", .one (.integer .u64) (5 : UInt64)),
    ("rpc_grace_period_secs", .one (.integer .u64) (30 : UInt64))]
  unpack s := (s.httpTimeoutSecs, s.rpcGracePeriodSecs, ())
  pack c := ⟨c.1, c.2.1⟩
  pack_unpack _ := rfl
  unpack_pack _ := rfl

/-- The seconds that an RPC server may take to stop. -/
def Shutdown.grace (s : Shutdown) : Option UInt64 :=
  if 0 < s.rpcGracePeriodSecs then some s.rpcGracePeriodSecs else none

/-- What the primary RPC server and the gateway share. -/
structure Server where
  /-- The address every listener is bound to. -/
  host : String := "0.0.0.0"
  /-- The calls that both RPC servers together admit in a second. -/
  rateLimit : UInt64 := 10000
  /-- The primary RPC listener. -/
  grpc : Grpc := {}
  /-- The HTTP gateway. -/
  http : Http := {}
  /-- How long the servers may take to stop. -/
  shutdown : Shutdown := {}
  deriving DecidableEq

instance : Record Server where
  title := "ServerSettings"
  fields := .ofList [
    ("host", .one .text "0.0.0.0"), ("rate_limit", .one (.integer .u64) (10000 : UInt64)),
    ("grpc", .part Grpc), ("http", .part Http), ("shutdown", .part Shutdown)]
  unpack s :=
    (s.host, s.rateLimit, Record.unpack s.grpc, Record.unpack s.http, Record.unpack s.shutdown, ())
  pack c :=
    ⟨c.1, c.2.1, Record.pack c.2.2.1, Record.pack c.2.2.2.1, Record.pack c.2.2.2.2.1⟩
  pack_unpack _ := rfl
  unpack_pack _ := rfl

/-- The invoker listener. -/
structure Distributed where
  /-- The port, zero for any free one. -/
  port : UInt16 := 5000
  deriving DecidableEq

instance : Record Distributed where
  title := "DistributedSettings"
  fields := .ofList [("port", .one (.integer .u16) (5000 : UInt16))]
  unpack s := (s.port, ())
  pack c := ⟨c.1⟩
  pack_unpack _ := rfl
  unpack_pack _ := rfl

/-- Authentication by preshared keys. -/
structure Preshared where
  /-- The accepted keys. -/
  keys : List String := []
  deriving DecidableEq

instance : Record Preshared where
  title := "PresharedSettings"
  fields := .ofList [("keys", .texts)]
  unpack s := (s.keys, ())
  pack c := ⟨c.1⟩
  pack_unpack _ := rfl
  unpack_pack _ := rfl

/-- Authentication by tokens of an issuer. -/
structure Oidc where
  /-- The URL of the issuer. -/
  issuer : String := ""
  /-- The audience that a token must name; empty for any. -/
  audience : String := ""
  /-- The seconds between two fetches of the key set; zero for none. -/
  refreshIntervalSecs : UInt64 := 900
  /-- The accepted signature algorithms. -/
  validMethods : List String := ["RS256"]
  deriving DecidableEq

instance : Record Oidc where
  title := "OidcSettings"
  fields := .ofList [
    ("issuer", .text), ("audience", .text),
    ("refresh_interval_secs", .one (.integer .u64) (900 : UInt64)),
    ("valid_methods", .many .text ["RS256"])]
  unpack s := (s.issuer, s.audience, s.refreshIntervalSecs, s.validMethods, ())
  pack c := ⟨c.1, c.2.1, c.2.2.1, c.2.2.2.1⟩
  pack_unpack _ := rfl
  unpack_pack _ := rfl

/-- Authentication. -/
structure Authn where
  /-- Whether a call has to carry a credential. -/
  enabled : Bool := false
  /-- How a credential is checked: `preshared` or `oidc`. -/
  method : String := "preshared"
  /-- Authentication by preshared keys. -/
  preshared : Preshared := {}
  /-- Authentication by tokens of an issuer. -/
  oidc : Oidc := {}
  deriving DecidableEq

instance : Record Authn where
  title := "AuthnConfig"
  fields := .ofList [
    ("enabled", .one .flag false), ("method", .one .text "preshared"),
    ("preshared", .part Preshared), ("oidc", .part Oidc)]
  unpack s := (s.enabled, s.method, Record.unpack s.preshared, Record.unpack s.oidc, ())
  pack c := ⟨c.1, c.2.1, Record.pack c.2.2.1, Record.pack c.2.2.2.1⟩
  pack_unpack _ := rfl
  unpack_pack _ := rfl

/-- The profiler. -/
structure Profiler where
  /-- Whether the profiler is started. -/
  enabled : Bool := false
  /-- The port, zero for any free one. -/
  port : UInt16 := 6060
  deriving DecidableEq

instance : Record Profiler where
  title := "ProfilerSettings"
  fields := .ofList [
    ("enabled", .one .flag false), ("port", .one (.integer .u16) (6060 : UInt16))]
  unpack s := (s.enabled, s.port, ())
  pack c := ⟨c.1, c.2.1⟩
  pack_unpack _ := rfl
  unpack_pack _ := rfl

/-- How log lines are written. -/
inductive LogFormat where
  | text
  | json
  deriving DecidableEq

/-- The place of a format among the words `text` and `json`. -/
def LogFormat.index : LogFormat → Fin 2
  | text => 0
  | json => 1

/-- The format of a place. -/
def LogFormat.ofIndex : Fin 2 → LogFormat
  | 0 => text
  | 1 => json

/-- The log. -/
structure Log where
  /-- Which messages are logged. -/
  level : String := "info"
  /-- How they are written. -/
  format : LogFormat := .text
  deriving DecidableEq

instance : Record Log where
  title := "LogSettings"
  fields := .ofList [
    ("level", .one .text "info"), ("format", .one (.keyword "text" ["json"]) (0 : Fin 2))]
  unpack s := (s.level, s.format.index, ())
  pack c := ⟨c.1, .ofIndex c.2.1⟩
  pack_unpack s := by
    obtain ⟨level, format⟩ := s
    cases format <;> rfl
  unpack_pack c := by
    obtain ⟨level, format, _⟩ := c
    have : (LogFormat.ofIndex format).index = format := by
      revert format; decide
    simp only [this]

end Config

/-- All settings of the process. -/
structure Config where
  server : Config.Server := {}
  distributed : Config.Distributed := {}
  authn : Config.Authn := {}
  profiler : Config.Profiler := {}
  log : Config.Log := {}
  deriving DecidableEq

instance : Record Config where
  title := "Config"
  fields := .ofList [
    ("server", .part Config.Server), ("distributed", .part Config.Distributed),
    ("authn", .part Config.Authn), ("profiler", .part Config.Profiler), ("log", .part Config.Log)]
  unpack s :=
    (Record.unpack s.server, Record.unpack s.distributed, Record.unpack s.authn,
      Record.unpack s.profiler, Record.unpack s.log, ())
  pack c :=
    ⟨Record.pack c.1, Record.pack c.2.1, Record.pack c.2.2.1, Record.pack c.2.2.2.1,
      Record.pack c.2.2.2.2.1⟩
  pack_unpack s := by
    obtain ⟨server, distributed, authn, profiler, log⟩ := s
    simp [Record.pack_unpack]
  unpack_pack c := by
    simp [Record.unpack_pack]

end Rebac
