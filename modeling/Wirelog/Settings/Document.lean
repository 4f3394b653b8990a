import Wirelog.Settings.Basic
import Wirelog.Toml.Read
/-!
Settings as TOML documents. Every table and every key may be absent, and unknown ones are ignored.
-/
namespace Wirelog.Settings
open Toml (field optional needed asText? asFlag? asWord? asList? asTexts?)

/-- A word of 16 bits. -/
def asU16? (v : Toml) : Option UInt16 :=
  (v.asWord? 16).map UInt16.ofNat

/-- A word of 64 bits. -/
def asU64? (v : Toml) : Option UInt64 :=
  (v.asWord? 64).map UInt64.ofNat

/-- Reads the table `general`. -/
def Listening.ofToml? (v : Toml) : Option Listening := do
  let m ← v.record? ["bind", "port", "port_range_start", "port_range_end"]
  let d : Listening := {}
  return {
    bind := ← field m "bind" (fun v => v.asText?.bind Net.Ip.parse?) d.bind
    port := ← field m "port" asU16? d.port
    firstPort := ← field m "port_range_start" asU16? d.firstPort
    lastPort := ← field m "port_range_end" asU16? d.lastPort }

/-- Reads the table `tls`. -/
def Interception.ofToml? (v : Toml) : Option Interception := do
  let m ← v.record? ["enabled", "ca_cert_path", "ca_key_path", "passthrough_domains"]
  let d : Interception := {}
  return {
    enabled := ← field m "enabled" asFlag? d.enabled
    certificateFile := ← optional m "ca_cert_path" asText?
    keyFile := ← optional m "ca_key_path" asText?
    exempt := ← field m "passthrough_domains" (asList? asText?) d.exempt }

/-- Reads the table `upstream`: another proxy, and whether to take any certificate. -/
def outgoing? (v : Toml) : Option (Option String × Bool) := do
  let m ← v.record? ["proxy", "trust_all_servers"]
  return (← optional m "proxy" asText?, ← field m "trust_all_servers" asFlag? false)

/-- Reads the table `capture`. -/
def Capture.ofToml? (v : Toml) : Option Capture := do
  let m ← v.record? ["headers", "content", "binary_content", "initial_page_ref"]
  let d : Capture := {}
  return {
    headers := ← field m "headers" asFlag? d.headers
    content := ← field m "content" asFlag? d.content
    binary := ← field m "binary_content" asFlag? d.binary
    firstPage := ← optional m "initial_page_ref" asText? }

/-- Reads the table `timeouts`. -/
def Patience.ofToml? (v : Toml) : Option Patience := do
  let m ← v.record? ["request_ms", "socket_ms", "connect_ms", "dns_cache_ms", "retry_count"]
  let d : Patience := {}
  return {
    requestMs := ← field m "request_ms" asU64? d.requestMs
    socketMs := ← field m "socket_ms" asU64? d.socketMs
    connectMs := ← field m "connect_ms" asU64? d.connectMs
    addressesMs := ← field m "dns_cache_ms" asU64? d.addressesMs
    retries := ← field m "retry_count" (fun v => (v.asWord? 32).map UInt32.ofNat) d.retries }

/-- Reads the table `shaping`. -/
def limits? (v : Toml) : Option Pacing.Limits := do
  let m ← v.record? ["enabled", "upstream_kbps", "downstream_kbps", "latency_ms",
    "payload_percentage", "max_bits_per_second"]
  let d : Pacing.Limits := {}
  return {
    enabled := ← field m "enabled" asFlag? d.enabled
    upKbps := ← field m "upstream_kbps" asU64? d.upKbps
    downKbps := ← field m "downstream_kbps" asU64? d.downKbps
    latencyMs := ← field m "latency_ms" asU64? d.latencyMs
    payload := ← field m "payload_percentage"
      (fun v => (v.asWord? 8).map UInt8.ofNat) d.payload
    maxBits := ← field m "max_bits_per_second" asU64? d.maxBits }

/-- Reads an element of `rules.blacklist`. -/
def Forbidden.ofToml? (v : Toml) : Option Forbidden := do
  let m ← v.record? ["pattern", "status"]
  return { pattern := ← needed m "pattern" asText?, status := ← field m "status" asU16? 404 }

/-- Reads the table `rules.whitelist`. -/
def Allowed.ofToml? (v : Toml) : Option Allowed := do
  let m ← v.record? ["patterns", "status"]
  return {
    patterns := ← needed m "patterns" (asList? asText?)
    status := ← field m "status" asU16? 403 }

/-- Reads an element of `rules.rewrite`. -/
def Replaced.ofToml? (v : Toml) : Option Replaced := do
  let m ← v.record? ["pattern", "replacement"]
  return {
    pattern := ← needed m "pattern" asText?
    replacement := ← needed m "replacement" asText? }

/-- Reads an element of `rules.basic_auth`. -/
def Login.ofToml? (v : Toml) : Option Login := do
  let m ← v.record? ["domain", "username", "password"]
  return {
    domain := ← needed m "domain" asText?
    user := ← needed m "username" asText?
    password := ← needed m "password" asText? }

/-- Reads the table `rules`. -/
def Rules.ofToml? (v : Toml) : Option Rules := do
  let m ← v.record? ["header_filter", "headers", "hosts", "blacklist", "whitelist", "rewrite",
    "basic_auth"]
  return {
    headerFilter := ← optional m "header_filter" asText?
    headers := ← field m "headers" asTexts? []
    hosts := ← field m "hosts" asTexts? []
    forbidden := ← field m "blacklist" (asList? Forbidden.ofToml?) []
    allowed := ← optional m "whitelist" Allowed.ofToml?
    replaced := ← field m "rewrite" (asList? Replaced.ofToml?) []
    logins := ← field m "basic_auth" (asList? Login.ofToml?) [] }

/-- Reads settings from the tables of a document. -/
def ofToml? (m : List (String × Toml)) : Option Settings := do
  let (relay, trustAll) ← field m "upstream" outgoing? (none, false)
  return {
    listening := ← field m "general" Listening.ofToml? {}
    interception := ← field m "tls" Interception.ofToml? {}
    relay
    trustAll
    capture := ← field m "capture" Capture.ofToml? {}
    patience := ← field m "timeouts" Patience.ofToml? {}
    limits := ← field m "shaping" limits? {}
    rules := ← field m "rules" Rules.ofToml? {} }

/-- Why a text gives no settings. -/
inductive LoadError where
  /-- It is no document, or its values are of the wrong kinds. -/
  | malformed
  /-- A value is not accepted. -/
  | refused (refusal : Refusal)
deriving DecidableEq

/-- `Config::from_toml_str`: reads and checks settings. -/
def load (text : String) : Except LoadError Settings :=
  match (Toml.parse? text).bind ofToml? with
  | none => .error .malformed
  | some s =>
    match s.check with
    | .ok _ => .ok s
    | .error r => .error (.refused r)

end Wirelog.Settings
