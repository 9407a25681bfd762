import TunnelAgent.Config
import TunnelAgent.Document.Typed

/-!
A configuration from a document. Every section and every entry may be missing and then has its
default; entries with other names are ignored; an entry of the wrong type, or out of its range,
makes the whole document unreadable.
-/

namespace TunnelAgent.Config

open Document

def readRule? (form : Form) (d : Document) : Option Rule := do
  let es ← d.entries? form ["name", "pattern", "allowed_identities", "host", "port", "client_scope"]
  let name ← required es "name" (text? form)
  let pattern ← required es "pattern" (text? form)
  let allowedIdentities ← defaulted es "allowed_identities" (list? (text? form)) []
  let host ← required es "host" (text? form)
  let port ← required es "port" word16?
  let clientScope ← defaulted es "client_scope" (optional? (text? form)) none
  return { name, pattern, allowedIdentities, host, port, clientScope }

def readGateway? (form : Form) (d : Document) : Option Gateway := do
  let es ← d.entries? form ["host", "port"]
  let host ← defaulted es "host" (text? form) ""
  let port ← defaulted es "port" word16? 8443
  return { host, port }

def readCredentials? (form : Form) (d : Document) : Option Credentials := do
  let es ← d.entries? form ["username", "secret"]
  let username ← defaulted es "username" (text? form) ""
  let secret ← defaulted es "secret" (text? form) ""
  return { username, secret }

def readTls? (form : Form) (d : Document) : Option Tls := do
  let es ← d.entries? form ["ca_cert_path", "insecure", "connect_timeout_secs"]
  let caCertPath ← defaulted es "ca_cert_path" (optional? (text? form)) none
  let insecure ← defaulted es "insecure" flag? false
  let connectTimeoutSecs ← defaulted es "connect_timeout_secs" word64? 10
  return { caCertPath, insecure, connectTimeoutSecs }

def readSocks? (form : Form) (d : Document) : Option Socks := do
  let es ← d.entries? form ["listen_addr", "connect_timeout_secs", "handshake_timeout_secs"]
  let listenAddr ← defaulted es "listen_addr" (text? form) "127.0.0.1:1080"
  let connectTimeoutSecs ← defaulted es "connect_timeout_secs" word64? 10
  let handshakeTimeoutSecs ← defaulted es "handshake_timeout_secs" word64? 10
  return { listenAddr, connectTimeoutSecs, handshakeTimeoutSecs }

def readRelay? (form : Form) (d : Document) : Option Relay := do
  let es ← d.entries? form ["local_target", "buffer_size", "pool_capacity", "retry_attempts",
    "retry_interval_ms", "connect_timeout_secs"]
  let localTarget ← defaulted es "local_target" (optional? (text? form)) none
  let bufferSize ← defaulted es "buffer_size" count? 16384
  let poolCapacity ← defaulted es "pool_capacity" count? 512
  let retryAttempts ← defaulted es "retry_attempts" word32? 5
  let retryIntervalMs ← defaulted es "retry_interval_ms" word64? 200
  let connectTimeoutSecs ← defaulted es "connect_timeout_secs" word64? 10
  return { localTarget, bufferSize, poolCapacity, retryAttempts, retryIntervalMs, connectTimeoutSecs }

def readHealth? (form : Form) (d : Document) : Option Health := do
  let es ← d.entries? form ["interval_secs", "max_missed"]
  let intervalSecs ← defaulted es "interval_secs" word64? 30
  let maxMissed ← defaulted es "max_missed" word32? 3
  return { intervalSecs, maxMissed }

def readReconnect? (form : Form) (d : Document) : Option Reconnect := do
  let es ← d.entries? form ["initial_backoff_ms", "max_backoff_secs", "multiplier", "max_attempts"]
  let initialBackoffMs ← defaulted es "initial_backoff_ms" word64? 1000
  let maxBackoffSecs ← defaulted es "max_backoff_secs" word64? 60
  let multiplier ← defaulted es "multiplier" real? (Binary64.ofNat 2)
  let maxAttempts ← defaulted es "max_attempts" (optional? count?) none
  return { initialBackoffMs, maxBackoffSecs, multiplier, maxAttempts }

def ofDocument? (form : Form) (d : Document) : Option Config := do
  let es ← d.entries? form ["agent_id", "gateway", "credentials", "tls", "socks", "multiplexer",
    "health_check", "reconnect", "resources"]
  let agentId ← defaulted es "agent_id" (text? form) ""
  let gateway ← defaulted es "gateway" (readGateway? form) {}
  let credentials ← defaulted es "credentials" (readCredentials? form) {}
  let tls ← defaulted es "tls" (readTls? form) {}
  let socks ← defaulted es "socks" (readSocks? form) {}
  let relay ← defaulted es "multiplexer" (readRelay? form) {}
  let health ← defaulted es "health_check" (readHealth? form) {}
  let reconnect ← defaulted es "reconnect" (readReconnect? form) {}
  let resources ← defaulted es "resources" (list? (readRule? form)) []
  return { agentId, gateway, credentials, tls, socks, relay, health, reconnect, resources }

end TunnelAgent.Config
