import TunnelAgent.Agent

/-! # What an accepted configuration promises

The checks are made one after the other and the first that fails is reported; together they say what
the parts of the agent may rely on, and there is an agent of every configuration that passes them and
of no other. -/

namespace TunnelAgent

/-- All that is checked before an agent is made. -/
structure Config.Valid (c : Config) : Prop where
  agentId : c.agentId.isEmpty = false
  gatewayHost : c.gateway.host.isEmpty = false
  gatewayPort : c.gateway.port ≠ 0
  username : c.credentials.username.isEmpty = false
  pool : 2 ≤ c.relay.poolCapacity
  buffer : c.relay.bufferSize ≠ 0
  interval : c.health.intervalSecs ≠ 0
  finite : c.reconnect.multiplier.isFinite = true
  grows : Binary64.one.le c.reconnect.multiplier = true
  destinations : ∀ rule ∈ c.resources, Config.hasDestination rule = true

namespace Config

theorem check_eq_none_iff {failed : Prop} [Decidable failed] {fault : ConfigFault}
    {rest : Option ConfigFault} :
    (if failed then some fault else rest) = none ↔ ¬ failed ∧ rest = none := by
  by_cases h : failed <;> simp [h]

theorem fault?_eq_none_iff {c : Config} : c.fault? = none ↔ c.Valid := by
  simp only [fault?, check_eq_none_iff, Option.map_eq_none_iff, List.find?_eq_none, Bool.not_eq_true,
    Bool.or_eq_false_iff, Bool.not_eq_false', Nat.not_lt]
  constructor
  · intro h
    obtain ⟨hid, hhost, hport, husername, hpool, hbuffer, hinterval, ⟨hfinite, hgrows⟩, hrules⟩ := h
    exact ⟨hid, hhost, hport, husername, hpool, hbuffer, hinterval, hfinite, hgrows, hrules⟩
  · intro h
    exact ⟨h.agentId, h.gatewayHost, h.gatewayPort, h.username, h.pool, h.buffer, h.interval,
      ⟨h.finite, h.grows⟩, h.destinations⟩

theorem validate_eq_ok_iff {c : Config} : c.validate = .ok () ↔ c.Valid := by
  rw [← fault?_eq_none_iff, validate]
  cases c.fault? <;> simp

end Config

namespace Agent

/-- What has no default, and nothing else. -/
def bareConfig : Config where
  agentId := "a"
  gateway := { host := "h" }
  credentials := { username := "u" }

/-- An agent as it is made. -/
def made (c : Config) : Agent where
  config := c
  backoff := { policy := c.backoffPolicy }
  session := .start (sessionSettings c) (shared c) 0 streamCapacity

theorem create_eq_ok_iff {c : Config} {a : Agent} : create c = .ok a ↔ c.Valid ∧ a = made c := by
  rw [← Config.validate_eq_ok_iff, create]
  cases c.validate with
  | error e => simp
  | ok u => exact ⟨fun h => ⟨rfl, (Except.ok.inj h).symm⟩, fun h => by rw [h.2]; rfl⟩

end Agent

end TunnelAgent
