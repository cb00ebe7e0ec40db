import Slan.Lib.Yaml
import Slan.Control.RelayClusters

/-! # `config.go`

The file is read and parsed outside; an environment variable that is not set is empty.
-/

namespace Slan.Configs

open Control (RelayCityConfig RelayClusterConfig RelayConfig RelayCountryConfig RelayNodeConfig)
open Yaml (field nested)

structure HTTPConfig where
  address : String
  opsAddress : String
  publicHost : String
  publicScheme : String
  deriving DecidableEq, Repr

structure WSConfig where
  path : String
  deriving DecidableEq, Repr

structure BootstrapConfig where
  stunServers : List String
  deriving DecidableEq, Repr

structure OpsDefaultAdminConfig where
  enabled : Bool
  email : String
  password : String
  loginName : String
  displayName : String
  deriving DecidableEq, Repr

structure OpsConfig where
  accessToken : String
  defaultAdmin : OpsDefaultAdminConfig
  deriving DecidableEq, Repr

structure PostgresConfig where
  host : String
  port : Int
  database : String
  username : String
  password : String
  sslMode : String
  maxOpenConns : Int
  minIdleConns : Int
  connMaxLifetimeSeconds : Int
  connMaxIdleTimeSeconds : Int
  deriving DecidableEq, Repr

structure RedisConfig where
  host : String
  port : Int
  password : String
  database : Int
  poolSize : Int
  minIdleConns : Int
  deriving DecidableEq, Repr

@[ext]
structure Config where
  http : HTTPConfig
  ws : WSConfig
  relay : RelayConfig
  bootstrap : BootstrapConfig
  ops : OpsConfig
  postgres : PostgresConfig
  redis : RedisConfig
  deriving DecidableEq, Repr

def defaultConfig : Config where
  http := ⟨":8080", ":8081", "127.0.0.1:8080", "http"⟩
  ws := ⟨"/control/ws"⟩
  relay := ⟨"cn-local-a", "dev-relay-ticket-secret",
    [⟨"CN", "China", [⟨"local", "Local", [⟨"cn-local-a", "CN Local A",
      [⟨"relay-cn-local-udp", "udp", "127.0.0.1:9000", 10, []⟩,
        ⟨"relay-cn-local-tcp", "tcp", "127.0.0.1:9001", 20, []⟩]⟩]⟩]⟩]⟩
  bootstrap := ⟨["stun:stun.l.google.com:19302"]⟩
  ops := ⟨"dev-ops-token",
    ⟨true, "admin@local.slan", "change-me-admin-password", "admin", "Default Admin"⟩⟩
  postgres := ⟨"127.0.0.1", 5432, "slan", "postgres", "123456", "disable", 10, 2, 1800, 300⟩
  redis := ⟨"127.0.0.1", 6379, "", 1, 10, 2⟩

/-! ## Decoding over a value -/

section Decoding

open Yaml (DecodeError)

def HTTPConfig.decode : Yaml → HTTPConfig → Except DecodeError HTTPConfig :=
  Yaml.struct fun members old => do
    let address ← field "address" Yaml.text members old.address
    let opsAddress ← field "ops_address" Yaml.text members old.opsAddress
    let publicHost ← field "public_host" Yaml.text members old.publicHost
    let publicScheme ← field "public_scheme" Yaml.text members old.publicScheme
    return ⟨address, opsAddress, publicHost, publicScheme⟩

def WSConfig.decode : Yaml → WSConfig → Except DecodeError WSConfig :=
  Yaml.struct fun members old => do
    let path ← field "path" Yaml.text members old.path
    return ⟨path⟩

def relayNode : Yaml.Decoder RelayNodeConfig :=
  Yaml.item (Yaml.struct fun members old => do
    let nodeId ← field "node_id" Yaml.text members old.nodeId
    let transport ← field "transport" Yaml.text members old.transport
    let address ← field "address" Yaml.text members old.address
    let priority ← field "priority" Yaml.int members old.priority
    let tags ← field "tags" (Yaml.slice Yaml.text) members old.tags
    return ⟨nodeId, transport, address, priority, tags⟩) ⟨"", "", "", 0, []⟩

def relayCluster : Yaml.Decoder RelayClusterConfig :=
  Yaml.item (Yaml.struct fun members old => do
    let clusterId ← field "cluster_id" Yaml.text members old.clusterId
    let clusterName ← field "cluster_name" Yaml.text members old.clusterName
    let nodes ← field "nodes" (Yaml.slice relayNode) members old.nodes
    return ⟨clusterId, clusterName, nodes⟩) ⟨"", "", []⟩

def relayCity : Yaml.Decoder RelayCityConfig :=
  Yaml.item (Yaml.struct fun members old => do
    let cityCode ← field "city_code" Yaml.text members old.cityCode
    let cityName ← field "city_name" Yaml.text members old.cityName
    let clusters ← field "clusters" (Yaml.slice relayCluster) members old.clusters
    return ⟨cityCode, cityName, clusters⟩) ⟨"", "", []⟩

def relayCountry : Yaml.Decoder RelayCountryConfig :=
  Yaml.item (Yaml.struct fun members old => do
    let countryCode ← field "country_code" Yaml.text members old.countryCode
    let countryName ← field "country_name" Yaml.text members old.countryName
    let cities ← field "cities" (Yaml.slice relayCity) members old.cities
    return ⟨countryCode, countryName, cities⟩) ⟨"", "", []⟩

def decodeRelay : Yaml → RelayConfig → Except DecodeError RelayConfig :=
  Yaml.struct fun members old => do
    let defaultClusterId ← field "default_cluster_id" Yaml.text members old.defaultClusterId
    let ticketSigningSecret ←
      field "ticket_signing_secret" Yaml.text members old.ticketSigningSecret
    let countries ← field "countries" (Yaml.slice relayCountry) members old.countries
    return ⟨defaultClusterId, ticketSigningSecret, countries⟩

def BootstrapConfig.decode : Yaml → BootstrapConfig → Except DecodeError BootstrapConfig :=
  Yaml.struct fun members old => do
    let stunServers ← field "stun_servers" (Yaml.slice Yaml.text) members old.stunServers
    return ⟨stunServers⟩

def OpsDefaultAdminConfig.decode :
    Yaml → OpsDefaultAdminConfig → Except DecodeError OpsDefaultAdminConfig :=
  Yaml.struct fun members old => do
    let enabled ← field "enabled" Yaml.boolean members old.enabled
    let email ← field "email" Yaml.text members old.email
    let password ← field "password" Yaml.text members old.password
    let loginName ← field "login_name" Yaml.text members old.loginName
    let displayName ← field "display_name" Yaml.text members old.displayName
    return ⟨enabled, email, password, loginName, displayName⟩

def OpsConfig.decode : Yaml → OpsConfig → Except DecodeError OpsConfig :=
  Yaml.struct fun members old => do
    let accessToken ← field "access_token" Yaml.text members old.accessToken
    let defaultAdmin ←
      nested "default_admin" OpsDefaultAdminConfig.decode members old.defaultAdmin
    return ⟨accessToken, defaultAdmin⟩

def PostgresConfig.decode : Yaml → PostgresConfig → Except DecodeError PostgresConfig :=
  Yaml.struct fun members old => do
    let host ← field "host" Yaml.text members old.host
    let port ← field "port" Yaml.int members old.port
    let database ← field "database" Yaml.text members old.database
    let username ← field "username" Yaml.text members old.username
    let password ← field "password" Yaml.text members old.password
    let sslMode ← field "ssl_mode" Yaml.text members old.sslMode
    let maxOpenConns ← field "max_open_conns" Yaml.int members old.maxOpenConns
    let minIdleConns ← field "min_idle_conns" Yaml.int members old.minIdleConns
    let connMaxLifetimeSeconds ←
      field "conn_max_lifetime_seconds" Yaml.int members old.connMaxLifetimeSeconds
    let connMaxIdleTimeSeconds ←
      field "conn_max_idle_time_seconds" Yaml.int members old.connMaxIdleTimeSeconds
    return ⟨host, port, database, username, password, sslMode, maxOpenConns, minIdleConns,
      connMaxLifetimeSeconds, connMaxIdleTimeSeconds⟩

def RedisConfig.decode : Yaml → RedisConfig → Except DecodeError RedisConfig :=
  Yaml.struct fun members old => do
    let host ← field "host" Yaml.text members old.host
    let port ← field "port" Yaml.int members old.port
    let password ← field "password" Yaml.text members old.password
    let database ← field "database" Yaml.int members old.database
    let poolSize ← field "pool_size" Yaml.int members old.poolSize
    let minIdleConns ← field "min_idle_conns" Yaml.int members old.minIdleConns
    return ⟨host, port, password, database, poolSize, minIdleConns⟩

def Config.decode : Yaml → Config → Except DecodeError Config :=
  Yaml.struct fun members old => do
    let http ← nested "http" HTTPConfig.decode members old.http
    let ws ← nested "ws" WSConfig.decode members old.ws
    let relay ← nested "relay" decodeRelay members old.relay
    let bootstrap ← nested "bootstrap" BootstrapConfig.decode members old.bootstrap
    let ops ← nested "ops" OpsConfig.decode members old.ops
    let postgres ← nested "postgres" PostgresConfig.decode members old.postgres
    let redis ← nested "redis" RedisConfig.decode members old.redis
    return ⟨http, ws, relay, bootstrap, ops, postgres, redis⟩

end Decoding

/-! ## Loading -/

/-- `if value == "" { value = fallback }`, and so for numbers and slices. -/
def orDefault {α : Type} [DecidableEq α] (empty value fallback : α) : α :=
  if value = empty then fallback else value

def fillRelay (relay : RelayConfig) : RelayConfig :=
  let relay :=
    if relay.defaultClusterId = "" ∨ relay.countries = [] then defaultConfig.relay else relay
  { relay with
    ticketSigningSecret :=
      orDefault "" relay.ticketSigningSecret defaultConfig.relay.ticketSigningSecret }

/-- The password is left as it is. -/
def fillPostgres (postgres : PostgresConfig) : PostgresConfig :=
  let fallback := defaultConfig.postgres
  let postgres := if postgres.host = "" then fallback else postgres
  { postgres with
    port := orDefault 0 postgres.port fallback.port
    database := orDefault "" postgres.database fallback.database
    username := orDefault "" postgres.username fallback.username
    sslMode := orDefault "" postgres.sslMode fallback.sslMode
    maxOpenConns := orDefault 0 postgres.maxOpenConns fallback.maxOpenConns
    minIdleConns := orDefault 0 postgres.minIdleConns fallback.minIdleConns
    connMaxLifetimeSeconds :=
      orDefault 0 postgres.connMaxLifetimeSeconds fallback.connMaxLifetimeSeconds
    connMaxIdleTimeSeconds :=
      orDefault 0 postgres.connMaxIdleTimeSeconds fallback.connMaxIdleTimeSeconds }

/-- What `LoadConfig` makes of what was decoded, but for the environment. -/
def fillDefaults (cfg : Config) : Config :=
  let fallback := defaultConfig
  { http := {
      address := orDefault "" cfg.http.address fallback.http.address
      opsAddress := orDefault "" cfg.http.opsAddress fallback.http.opsAddress
      publicHost := orDefault "" cfg.http.publicHost fallback.http.publicHost
      publicScheme := orDefault "" cfg.http.publicScheme fallback.http.publicScheme }
    ws := ⟨orDefault "" cfg.ws.path fallback.ws.path⟩
    relay := fillRelay cfg.relay
    bootstrap := ⟨orDefault [] cfg.bootstrap.stunServers fallback.bootstrap.stunServers⟩
    ops := {
      accessToken := orDefault "" cfg.ops.accessToken fallback.ops.accessToken
      defaultAdmin := { cfg.ops.defaultAdmin with
        email := orDefault "" cfg.ops.defaultAdmin.email fallback.ops.defaultAdmin.email
        password := orDefault "" cfg.ops.defaultAdmin.password fallback.ops.defaultAdmin.password
        loginName :=
          orDefault "" cfg.ops.defaultAdmin.loginName fallback.ops.defaultAdmin.loginName
        displayName :=
          orDefault "" cfg.ops.defaultAdmin.displayName fallback.ops.defaultAdmin.displayName } }
    postgres := fillPostgres cfg.postgres
    redis := { cfg.redis with
      host := orDefault "" cfg.redis.host fallback.redis.host
      port := orDefault 0 cfg.redis.port fallback.redis.port
      poolSize := orDefault 0 cfg.redis.poolSize fallback.redis.poolSize
      minIdleConns := orDefault 0 cfg.redis.minIdleConns fallback.redis.minIdleConns } }

/-- `if value := os.Getenv(key); value != "" { … }` -/
def overridden (value old : String) : String := if value = "" then old else value

def applyEnvOverrides (getenv : String → String) (cfg : Config) : Config :=
  { cfg with
    http := { cfg.http with
      publicHost := overridden (getenv "SLAN_HTTP_PUBLIC_HOST") cfg.http.publicHost
      publicScheme := overridden (getenv "SLAN_HTTP_PUBLIC_SCHEME") cfg.http.publicScheme }
    relay := { cfg.relay with
      ticketSigningSecret := overridden (getenv "SLAN_RELAY_TICKET_SIGNING_SECRET")
        cfg.relay.ticketSigningSecret }
    ops := {
      accessToken := overridden (getenv "SLAN_OPS_ACCESS_TOKEN") cfg.ops.accessToken
      defaultAdmin := { cfg.ops.defaultAdmin with
        password := overridden (getenv "SLAN_OPS_DEFAULT_ADMIN_PASSWORD")
          cfg.ops.defaultAdmin.password } }
    postgres := { cfg.postgres with
      password := overridden (getenv "SLAN_POSTGRES_PASSWORD") cfg.postgres.password }
    redis := { cfg.redis with
      password := overridden (getenv "SLAN_REDIS_PASSWORD") cfg.redis.password } }

/-- The file system's errors and the parser's are their texts. -/
inductive LoadError where
  | read (err : String)
  | parse (err : String)
  | decode (err : Yaml.DecodeError)
  deriving DecidableEq, Repr

/-- `LoadConfig`, over the file system, the parser and the environment. -/
def loadConfig {Payload : Type} (readFile : String → Except String Payload)
    (parse : Payload → Except String Yaml) (getenv : String → String) (path : String) :
    Except LoadError Config :=
  if path = "" then
    .ok defaultConfig
  else do
    let payload ← (readFile path).mapError .read
    let doc ← (parse payload).mapError .parse
    let cfg ← (Config.decode doc defaultConfig).mapError .decode
    return applyEnvOverrides getenv (fillDefaults cfg)

end Slan.Configs
