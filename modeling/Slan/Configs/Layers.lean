import Slan.Configs.Config
import Slan.Lib.Program

/-! # Environment, file, default -/

namespace Slan.Configs

open Control (RelayConfig)
open Yaml (given of_field_bind of_nested_bind struct_eq_ok)

/-! ## What is decoded -/

theorem HTTPConfig.decode_eq_ok {node : Yaml} {old cfg : HTTPConfig}
    (h : HTTPConfig.decode node old = .ok cfg) :
    cfg = {
      address := (given Yaml.text ["address"] node).getD old.address
      opsAddress := (given Yaml.text ["ops_address"] node).getD old.opsAddress
      publicHost := (given Yaml.text ["public_host"] node).getD old.publicHost
      publicScheme := (given Yaml.text ["public_scheme"] node).getD old.publicScheme } := by
  obtain ⟨members, rfl, hdecode⟩ | ⟨rfl, rfl⟩ := struct_eq_ok h
  · iterate 4 replace hdecode := of_field_bind hdecode
    cases hdecode
    rfl
  · rfl

theorem WSConfig.decode_eq_ok {node : Yaml} {old cfg : WSConfig}
    (h : WSConfig.decode node old = .ok cfg) :
    cfg = {
      path := (given Yaml.text ["path"] node).getD old.path } := by
  obtain ⟨members, rfl, hdecode⟩ | ⟨rfl, rfl⟩ := struct_eq_ok h
  · replace hdecode := of_field_bind hdecode
    cases hdecode
    rfl
  · rfl

theorem decodeRelay_eq_ok {node : Yaml} {old cfg : RelayConfig}
    (h : decodeRelay node old = .ok cfg) :
    cfg = {
      defaultClusterId :=
        (given Yaml.text ["default_cluster_id"] node).getD old.defaultClusterId
      ticketSigningSecret :=
        (given Yaml.text ["ticket_signing_secret"] node).getD old.ticketSigningSecret
      countries := (given (Yaml.slice relayCountry) ["countries"] node).getD old.countries } := by
  obtain ⟨members, rfl, hdecode⟩ | ⟨rfl, rfl⟩ := struct_eq_ok h
  · iterate 3 replace hdecode := of_field_bind hdecode
    cases hdecode
    rfl
  · rfl

theorem BootstrapConfig.decode_eq_ok {node : Yaml} {old cfg : BootstrapConfig}
    (h : BootstrapConfig.decode node old = .ok cfg) :
    cfg = {
      stunServers :=
        (given (Yaml.slice Yaml.text) ["stun_servers"] node).getD old.stunServers } := by
  obtain ⟨members, rfl, hdecode⟩ | ⟨rfl, rfl⟩ := struct_eq_ok h
  · replace hdecode := of_field_bind hdecode
    cases hdecode
    rfl
  · rfl

theorem OpsDefaultAdminConfig.decode_eq_ok {node : Yaml} {old cfg : OpsDefaultAdminConfig}
    (h : OpsDefaultAdminConfig.decode node old = .ok cfg) :
    cfg = {
      enabled := (given Yaml.boolean ["enabled"] node).getD old.enabled
      email := (given Yaml.text ["email"] node).getD old.email
      password := (given Yaml.text ["password"] node).getD old.password
      loginName := (given Yaml.text ["login_name"] node).getD old.loginName
      displayName := (given Yaml.text ["display_name"] node).getD old.displayName } := by
  obtain ⟨members, rfl, hdecode⟩ | ⟨rfl, rfl⟩ := struct_eq_ok h
  · iterate 5 replace hdecode := of_field_bind hdecode
    cases hdecode
    rfl
  · rfl

theorem OpsConfig.decode_eq_ok {node : Yaml} {old cfg : OpsConfig}
    (h : OpsConfig.decode node old = .ok cfg) :
    cfg.accessToken = (given Yaml.text ["access_token"] node).getD old.accessToken ∧
      OpsDefaultAdminConfig.decode (node.sub "default_admin") old.defaultAdmin =
        .ok cfg.defaultAdmin := by
  obtain ⟨members, rfl, hdecode⟩ | ⟨rfl, rfl⟩ := struct_eq_ok h
  · replace hdecode := of_field_bind hdecode
    obtain ⟨defaultAdmin, hadmin, hdecode⟩ := of_nested_bind rfl hdecode
    cases hdecode
    exact ⟨rfl, hadmin⟩
  · exact ⟨rfl, rfl⟩

theorem PostgresConfig.decode_eq_ok {node : Yaml} {old cfg : PostgresConfig}
    (h : PostgresConfig.decode node old = .ok cfg) :
    cfg = {
      host := (given Yaml.text ["host"] node).getD old.host
      port := (given Yaml.int ["port"] node).getD old.port
      database := (given Yaml.text ["database"] node).getD old.database
      username := (given Yaml.text ["username"] node).getD old.username
      password := (given Yaml.text ["password"] node).getD old.password
      sslMode := (given Yaml.text ["ssl_mode"] node).getD old.sslMode
      maxOpenConns := (given Yaml.int ["max_open_conns"] node).getD old.maxOpenConns
      minIdleConns := (given Yaml.int ["min_idle_conns"] node).getD old.minIdleConns
      connMaxLifetimeSeconds :=
        (given Yaml.int ["conn_max_lifetime_seconds"] node).getD old.connMaxLifetimeSeconds
      connMaxIdleTimeSeconds :=
        (given Yaml.int ["conn_max_idle_time_seconds"] node).getD old.connMaxIdleTimeSeconds } := by
  obtain ⟨members, rfl, hdecode⟩ | ⟨rfl, rfl⟩ := struct_eq_ok h
  · iterate 10 replace hdecode := of_field_bind hdecode
    cases hdecode
    rfl
  · rfl

theorem RedisConfig.decode_eq_ok {node : Yaml} {old cfg : RedisConfig}
    (h : RedisConfig.decode node old = .ok cfg) :
    cfg = {
      host := (given Yaml.text ["host"] node).getD old.host
      port := (given Yaml.int ["port"] node).getD old.port
      password := (given Yaml.text ["password"] node).getD old.password
      database := (given Yaml.int ["database"] node).getD old.database
      poolSize := (given Yaml.int ["pool_size"] node).getD old.poolSize
      minIdleConns := (given Yaml.int ["min_idle_conns"] node).getD old.minIdleConns } := by
  obtain ⟨members, rfl, hdecode⟩ | ⟨rfl, rfl⟩ := struct_eq_ok h
  · iterate 6 replace hdecode := of_field_bind hdecode
    cases hdecode
    rfl
  · rfl

/-- Each section is decoded on its own. -/
theorem Config.decode_eq_ok {doc : Yaml} {old cfg : Config}
    (h : Config.decode doc old = .ok cfg) :
    HTTPConfig.decode (doc.sub "http") old.http = .ok cfg.http ∧
      WSConfig.decode (doc.sub "ws") old.ws = .ok cfg.ws ∧
      decodeRelay (doc.sub "relay") old.relay = .ok cfg.relay ∧
      BootstrapConfig.decode (doc.sub "bootstrap") old.bootstrap = .ok cfg.bootstrap ∧
      OpsConfig.decode (doc.sub "ops") old.ops = .ok cfg.ops ∧
      PostgresConfig.decode (doc.sub "postgres") old.postgres = .ok cfg.postgres ∧
      RedisConfig.decode (doc.sub "redis") old.redis = .ok cfg.redis := by
  obtain ⟨members, rfl, hdecode⟩ | ⟨rfl, rfl⟩ := struct_eq_ok h
  · obtain ⟨http, hhttp, hdecode⟩ := of_nested_bind rfl hdecode
    obtain ⟨ws, hws, hdecode⟩ := of_nested_bind rfl hdecode
    obtain ⟨relay, hrelay, hdecode⟩ := of_nested_bind rfl hdecode
    obtain ⟨bootstrap, hbootstrap, hdecode⟩ := of_nested_bind rfl hdecode
    obtain ⟨ops, hops, hdecode⟩ := of_nested_bind rfl hdecode
    obtain ⟨postgres, hpostgres, hdecode⟩ := of_nested_bind rfl hdecode
    obtain ⟨redis, hredis, hdecode⟩ := of_nested_bind rfl hdecode
    cases hdecode
    exact ⟨hhttp, hws, hrelay, hbootstrap, hops, hpostgres, hredis⟩
  · exact ⟨rfl, rfl, rfl, rfl, rfl, rfl, rfl⟩

/-! ## The layers -/

/-- The file's value if it gives one that is not empty, else the default. -/
def layer {α : Type} [DecidableEq α] (empty : α) (file : Option α) (fallback : α) : α :=
  match file with
  | some value => if value = empty then fallback else value
  | none => fallback

/-- As decoded over the default and filled up with it. -/
theorem orDefault_getD {α : Type} [DecidableEq α] (empty : α) (file : Option α) (fallback : α) :
    orDefault empty (file.getD fallback) fallback = layer empty file fallback := by
  cases file with
  | none => exact ite_self _
  | some value => rfl

theorem layer_of_ne {α : Type} [DecidableEq α] {empty : α} {file : Option α} {fallback : α}
    (hfile : file ≠ some empty) : layer empty file fallback = file.getD fallback := by
  cases file with
  | none => rfl
  | some value => exact if_neg fun h => hfile (congrArg some h)

theorem getD_eq_empty_iff {α : Type} {empty fallback : α} (file : Option α)
    (hfallback : fallback ≠ empty) : file.getD fallback = empty ↔ file = some empty := by
  cases file with
  | none => exact ⟨fun h => absurd h hfallback, nofun⟩
  | some value => exact Option.some_inj.symm

/-- Every field by the three layers: the environment over the file over the default. A truth value
is never empty. -/
def layered (getenv : String → String) (doc : Yaml) : Config :=
  let fallback := defaultConfig
  { http := {
      address := layer "" (given Yaml.text ["http", "address"] doc) fallback.http.address
      opsAddress := layer "" (given Yaml.text ["http", "ops_address"] doc) fallback.http.opsAddress
      publicHost := overridden (getenv "SLAN_HTTP_PUBLIC_HOST")
        (layer "" (given Yaml.text ["http", "public_host"] doc) fallback.http.publicHost)
      publicScheme := overridden (getenv "SLAN_HTTP_PUBLIC_SCHEME")
        (layer "" (given Yaml.text ["http", "public_scheme"] doc) fallback.http.publicScheme) }
    ws := ⟨layer "" (given Yaml.text ["ws", "path"] doc) fallback.ws.path⟩
    relay := {
      defaultClusterId := layer "" (given Yaml.text ["relay", "default_cluster_id"] doc)
        fallback.relay.defaultClusterId
      ticketSigningSecret := overridden (getenv "SLAN_RELAY_TICKET_SIGNING_SECRET")
        (layer "" (given Yaml.text ["relay", "ticket_signing_secret"] doc)
          fallback.relay.ticketSigningSecret)
      countries := layer [] (given (Yaml.slice relayCountry) ["relay", "countries"] doc)
        fallback.relay.countries }
    bootstrap := ⟨layer [] (given (Yaml.slice Yaml.text) ["bootstrap", "stun_servers"] doc)
      fallback.bootstrap.stunServers⟩
    ops := {
      accessToken := overridden (getenv "SLAN_OPS_ACCESS_TOKEN")
        (layer "" (given Yaml.text ["ops", "access_token"] doc) fallback.ops.accessToken)
      defaultAdmin := {
        enabled := (given Yaml.boolean ["ops", "default_admin", "enabled"] doc).getD
          fallback.ops.defaultAdmin.enabled
        email := layer "" (given Yaml.text ["ops", "default_admin", "email"] doc)
          fallback.ops.defaultAdmin.email
        password := overridden (getenv "SLAN_OPS_DEFAULT_ADMIN_PASSWORD")
          (layer "" (given Yaml.text ["ops", "default_admin", "password"] doc)
            fallback.ops.defaultAdmin.password)
        loginName := layer "" (given Yaml.text ["ops", "default_admin", "login_name"] doc)
          fallback.ops.defaultAdmin.loginName
        displayName := layer "" (given Yaml.text ["ops", "default_admin", "display_name"] doc)
          fallback.ops.defaultAdmin.displayName } }
    postgres := {
      host := layer "" (given Yaml.text ["postgres", "host"] doc) fallback.postgres.host
      port := layer 0 (given Yaml.int ["postgres", "port"] doc) fallback.postgres.port
      database := layer "" (given Yaml.text ["postgres", "database"] doc)
        fallback.postgres.database
      username := layer "" (given Yaml.text ["postgres", "username"] doc)
        fallback.postgres.username
      password := overridden (getenv "SLAN_POSTGRES_PASSWORD")
        (layer "" (given Yaml.text ["postgres", "password"] doc) fallback.postgres.password)
      sslMode := layer "" (given Yaml.text ["postgres", "ssl_mode"] doc) fallback.postgres.sslMode
      maxOpenConns := layer 0 (given Yaml.int ["postgres", "max_open_conns"] doc)
        fallback.postgres.maxOpenConns
      minIdleConns := layer 0 (given Yaml.int ["postgres", "min_idle_conns"] doc)
        fallback.postgres.minIdleConns
      connMaxLifetimeSeconds :=
        layer 0 (given Yaml.int ["postgres", "conn_max_lifetime_seconds"] doc)
          fallback.postgres.connMaxLifetimeSeconds
      connMaxIdleTimeSeconds :=
        layer 0 (given Yaml.int ["postgres", "conn_max_idle_time_seconds"] doc)
          fallback.postgres.connMaxIdleTimeSeconds }
    redis := {
      host := layer "" (given Yaml.text ["redis", "host"] doc) fallback.redis.host
      port := layer 0 (given Yaml.int ["redis", "port"] doc) fallback.redis.port
      password := overridden (getenv "SLAN_REDIS_PASSWORD")
        (layer "" (given Yaml.text ["redis", "password"] doc) fallback.redis.password)
      database := layer 0 (given Yaml.int ["redis", "database"] doc) fallback.redis.database
      poolSize := layer 0 (given Yaml.int ["redis", "pool_size"] doc) fallback.redis.poolSize
      minIdleConns := layer 0 (given Yaml.int ["redis", "min_idle_conns"] doc)
        fallback.redis.minIdleConns } }

/-- The file gives an empty default cluster, or no country. -/
def topologyEmpty (doc : Yaml) : Prop :=
  given Yaml.text ["relay", "default_cluster_id"] doc = some "" ∨
    given (Yaml.slice relayCountry) ["relay", "countries"] doc = some []
  deriving Decidable

/-- The layers, but for the relay's topology and the section of the database, which are one with
their defaults, and for the passwords and the number that may be set to nothing. -/
def settled (getenv : String → String) (doc : Yaml) : Config :=
  let fallback := defaultConfig
  let cfg := layered getenv doc
  { cfg with
    relay :=
      if topologyEmpty doc then
        { cfg.relay with
          defaultClusterId := fallback.relay.defaultClusterId
          countries := fallback.relay.countries }
      else
        cfg.relay
    postgres :=
      if given Yaml.text ["postgres", "host"] doc = some "" then
        { fallback.postgres with
          password := overridden (getenv "SLAN_POSTGRES_PASSWORD") fallback.postgres.password }
      else
        { cfg.postgres with
          password := overridden (getenv "SLAN_POSTGRES_PASSWORD")
            ((given Yaml.text ["postgres", "password"] doc).getD fallback.postgres.password) }
    redis := { cfg.redis with
      password := overridden (getenv "SLAN_REDIS_PASSWORD")
        ((given Yaml.text ["redis", "password"] doc).getD fallback.redis.password)
      database := (given Yaml.int ["redis", "database"] doc).getD fallback.redis.database } }

section Sections

variable {getenv : String → String} {doc : Yaml} {decoded : Config}
  (hdecode : Config.decode doc defaultConfig = .ok decoded)
include hdecode

theorem loaded_http :
    (applyEnvOverrides getenv (fillDefaults decoded)).http = (settled getenv doc).http := by
  have hhttp := HTTPConfig.decode_eq_ok (Config.decode_eq_ok hdecode).1
  simp only [applyEnvOverrides, fillDefaults, hhttp, Yaml.given_sub, orDefault_getD, settled,
    layered]

theorem loaded_ws :
    (applyEnvOverrides getenv (fillDefaults decoded)).ws = (settled getenv doc).ws := by
  have hws := WSConfig.decode_eq_ok (Config.decode_eq_ok hdecode).2.1
  simp only [applyEnvOverrides, fillDefaults, hws, Yaml.given_sub, orDefault_getD, settled,
    layered]

theorem loaded_bootstrap :
    (applyEnvOverrides getenv (fillDefaults decoded)).bootstrap =
      (settled getenv doc).bootstrap := by
  have hbootstrap := BootstrapConfig.decode_eq_ok (Config.decode_eq_ok hdecode).2.2.2.1
  simp only [applyEnvOverrides, fillDefaults, hbootstrap, Yaml.given_sub, orDefault_getD, settled,
    layered]

theorem loaded_ops :
    (applyEnvOverrides getenv (fillDefaults decoded)).ops = (settled getenv doc).ops := by
  obtain ⟨htoken, hadmin⟩ := OpsConfig.decode_eq_ok (Config.decode_eq_ok hdecode).2.2.2.2.1
  replace hadmin := OpsDefaultAdminConfig.decode_eq_ok hadmin
  simp only [applyEnvOverrides, fillDefaults, htoken, hadmin, Yaml.given_sub, orDefault_getD,
    settled, layered]

theorem loaded_redis :
    (applyEnvOverrides getenv (fillDefaults decoded)).redis = (settled getenv doc).redis := by
  have hredis := RedisConfig.decode_eq_ok (Config.decode_eq_ok hdecode).2.2.2.2.2.2
  simp only [applyEnvOverrides, fillDefaults, hredis, Yaml.given_sub, orDefault_getD, settled,
    layered]

theorem loaded_postgres :
    (applyEnvOverrides getenv (fillDefaults decoded)).postgres =
      (settled getenv doc).postgres := by
  have hpostgres := PostgresConfig.decode_eq_ok (Config.decode_eq_ok hdecode).2.2.2.2.2.1
  have hhost : decoded.postgres.host = "" ↔
      given Yaml.text ["postgres", "host"] doc = some "" := by
    rw [hpostgres, Yaml.given_sub]
    exact getD_eq_empty_iff _ (by decide)
  by_cases hempty : given Yaml.text ["postgres", "host"] doc = some ""
  · simp only [applyEnvOverrides, fillDefaults, fillPostgres, if_pos (hhost.mpr hempty), settled,
      if_pos hempty]
    rfl
  · simp only [applyEnvOverrides, fillDefaults, fillPostgres, if_neg (mt hhost.mp hempty), settled,
      if_neg hempty, layered]
    simp only [hpostgres, Yaml.given_sub, orDefault_getD, layer_of_ne hempty]

/-- The secret goes with an empty topology; otherwise the layers hold. -/
theorem loaded_relay :
    (applyEnvOverrides getenv (fillDefaults decoded)).relay =
      if topologyEmpty doc then
        { defaultConfig.relay with
          ticketSigningSecret := overridden (getenv "SLAN_RELAY_TICKET_SIGNING_SECRET")
            defaultConfig.relay.ticketSigningSecret }
      else
        (layered getenv doc).relay := by
  have hrelay := decodeRelay_eq_ok (Config.decode_eq_ok hdecode).2.2.1
  have hcluster : decoded.relay.defaultClusterId = "" ↔
      given Yaml.text ["relay", "default_cluster_id"] doc = some "" := by
    rw [hrelay, Yaml.given_sub]
    exact getD_eq_empty_iff _ (by decide)
  have hcountries : decoded.relay.countries = [] ↔
      given (Yaml.slice relayCountry) ["relay", "countries"] doc = some [] := by
    simp only [hrelay, Yaml.given_sub]
    exact getD_eq_empty_iff _ (List.cons_ne_nil _ _)
  have htopology : (decoded.relay.defaultClusterId = "" ∨ decoded.relay.countries = []) ↔
      topologyEmpty doc := or_congr hcluster hcountries
  by_cases hempty : topologyEmpty doc
  · simp only [applyEnvOverrides, fillDefaults, fillRelay, if_pos (htopology.mpr hempty),
      if_pos hempty]
    rfl
  · have hgiven := not_or.mp hempty
    simp only [applyEnvOverrides, fillDefaults, fillRelay, if_neg (mt htopology.mp hempty),
      if_neg hempty, layered]
    simp only [hrelay, Yaml.given_sub, orDefault_getD, layer_of_ne hgiven.1,
      layer_of_ne hgiven.2]

theorem loaded_topology :
    (applyEnvOverrides getenv (fillDefaults decoded)).relay =
      { (settled getenv doc).relay with
        ticketSigningSecret :=
          (applyEnvOverrides getenv (fillDefaults decoded)).relay.ticketSigningSecret } := by
  rw [loaded_relay hdecode]
  simp only [settled]
  split <;> rfl

theorem loaded_secret
    (hkept : getenv "SLAN_RELAY_TICKET_SIGNING_SECRET" ≠ "" ∨ ¬ topologyEmpty doc) :
    (applyEnvOverrides getenv (fillDefaults decoded)).relay.ticketSigningSecret =
      (settled getenv doc).relay.ticketSigningSecret := by
  rw [loaded_relay hdecode]
  simp only [settled]
  obtain hset | htopology := hkept
  · split
    · simp only [layered, overridden, if_neg hset]
    · rfl
  · rw [if_neg htopology, if_neg htopology]

end Sections

/-! ## Every load -/

section Loads

variable {Payload : Type} {readFile : String → Except String Payload}
  {parse : Payload → Except String Yaml} {getenv : String → String} {path : String} {cfg : Config}

theorem loadConfig_eq_ok (h : loadConfig readFile parse getenv path = .ok cfg)
    (hpath : path ≠ "") :
    ∃ payload doc decoded, readFile path = .ok payload ∧ parse payload = .ok doc ∧
      Config.decode doc defaultConfig = .ok decoded ∧
      cfg = applyEnvOverrides getenv (fillDefaults decoded) := by
  rw [loadConfig, if_neg hpath] at h
  obtain ⟨payload, hread, h⟩ := Program.bind_eq_ok.mp h
  obtain ⟨doc, hparse, h⟩ := Program.bind_eq_ok.mp h
  obtain ⟨decoded, hdecode, h⟩ := Program.bind_eq_ok.mp h
  cases h
  exact ⟨payload, doc, decoded, Program.mapError_eq_ok.mp hread, Program.mapError_eq_ok.mp hparse,
    Program.mapError_eq_ok.mp hdecode, rfl⟩

/-- The empty path is the default configuration as it is. Any other file is settled, and a signing
secret is kept unless the file empties the topology and the environment gives none. -/
theorem loadConfig_settled (h : loadConfig readFile parse getenv path = .ok cfg) :
    path = "" ∧ cfg = defaultConfig ∨
    path ≠ "" ∧ ∃ payload doc, readFile path = .ok payload ∧ parse payload = .ok doc ∧
      cfg = { settled getenv doc with
        relay := { (settled getenv doc).relay with
          ticketSigningSecret := cfg.relay.ticketSigningSecret } } ∧
      (getenv "SLAN_RELAY_TICKET_SIGNING_SECRET" ≠ "" ∨ ¬ topologyEmpty doc →
        cfg.relay.ticketSigningSecret = (settled getenv doc).relay.ticketSigningSecret) := by
  by_cases hpath : path = ""
  · rw [loadConfig, if_pos hpath] at h
    cases h
    exact .inl ⟨hpath, rfl⟩
  · obtain ⟨payload, doc, decoded, hread, hparse, hdecode, rfl⟩ := loadConfig_eq_ok h hpath
    refine .inr ⟨hpath, payload, doc, hread, hparse, ?_, ?_⟩
    · exact Config.ext (loaded_http hdecode) (loaded_ws hdecode) (loaded_topology hdecode)
        (loaded_bootstrap hdecode) (loaded_ops hdecode) (loaded_postgres hdecode)
        (loaded_redis hdecode)
    · exact loaded_secret hdecode

end Loads

def serverFile : String :=
  "relay:\n  default_cluster_id: edge-1\n  countries: []\npostgres:\n  host: \"\"\n" ++
    "  database: production\nredis:\n  database: 0\n"

def serverDoc : Yaml :=
  .map [("relay", .map [("default_cluster_id", .scalar "edge-1" none none),
      ("countries", .seq [])]),
    ("postgres", .map [("host", .scalar "" none none),
      ("database", .scalar "production" none none)]),
    ("redis", .map [("database", .scalar "0" (some 0) none)])]

def readServerFile (path : String) : Except String String :=
  if path = "server.yaml" then
    .ok serverFile
  else
    .error s!"open {path}: no such file or directory"

def parseServerFile (payload : String) : Except String Yaml :=
  if payload = serverFile then .ok serverDoc else .error "yaml: unmarshal errors"

def productionSecret (key : String) : String :=
  if key = "SLAN_RELAY_TICKET_SIGNING_SECRET" then "production-secret" else ""

/-- Without a path the environment is not asked, and the file's database, its cluster and its
redis database are not layered either. -/
theorem environment_not_asked :
    (∃ cfg, loadConfig readServerFile parseServerFile productionSecret "" = .ok cfg ∧
      cfg.relay.ticketSigningSecret = "dev-relay-ticket-secret" ∧
      (layered productionSecret .null).relay.ticketSigningSecret = "production-secret") ∧
    ∃ cfg, loadConfig readServerFile parseServerFile productionSecret "server.yaml" = .ok cfg ∧
      (cfg.relay.ticketSigningSecret, cfg.relay.defaultClusterId, cfg.postgres.database,
        cfg.redis.database) = ("production-secret", "cn-local-a", "slan", 0) ∧
      let expected := layered productionSecret serverDoc
      (expected.relay.ticketSigningSecret, expected.relay.defaultClusterId,
        expected.postgres.database, expected.redis.database) =
        ("production-secret", "edge-1", "production", 1) :=
  ⟨⟨_, rfl, rfl, rfl⟩, ⟨_, rfl, rfl, rfl⟩⟩

theorem serverFile_settled :
    ∃ cfg, loadConfig readServerFile parseServerFile productionSecret "server.yaml" = .ok cfg ∧
      cfg = { settled productionSecret serverDoc with
        relay := { (settled productionSecret serverDoc).relay with
          ticketSigningSecret := cfg.relay.ticketSigningSecret } } ∧
      cfg.relay.ticketSigningSecret = "production-secret" := by
  obtain ⟨cfg, hload⟩ : ∃ cfg,
      loadConfig readServerFile parseServerFile productionSecret "server.yaml" = .ok cfg :=
    ⟨_, rfl⟩
  obtain ⟨hpath, -⟩ | ⟨-, payload, doc, hread, hparse, hsettled, hsecret⟩ := loadConfig_settled hload
  · exact absurd hpath (by decide)
  · cases hread
    cases hparse
    exact ⟨cfg, hload, hsettled, (hsecret (.inl (by decide))).trans rfl⟩

end Slan.Configs
