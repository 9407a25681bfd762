import TunnelAgent.Gateway.Link
import TunnelAgent.Registration

/-!
A registrar without the rest of its session: it sends manifests over a link and is told what the
gateway answers.
-/

namespace TunnelAgent.Registrar

structure Scenario where
  registrar : Registrar := {}
  link : Link := {}
  table : AccessTable
  /-- where keys come from -/
  words : WordStream

namespace Scenario

def deliver (c : Scenario) : Scenario := { c with link := c.link.flush 0 }

/-- Registers rules with fresh keys; `none` if the words do not suffice for them. -/
def register (rules : List Rule) (c : Scenario) : Option (Except TransportFault Unit × Scenario) :=
  let (draws, words) := c.words.take rules.length
  match assignKeys rules draws with
  | none => none
  | some (resources, _) =>
    match c.registrar.register c.link.writerOpen resources with
    | (.ok frame, registrar) =>
      some (.ok (), { c with registrar, words, link := c.link.enqueue [frame] }.deliver)
    | (.error e, registrar) => some (.error e, { c with registrar, words }.deliver)

def answer (payload : Bytes) (c : Scenario) : Scenario :=
  let (registrar, table) := c.registrar.answer payload c.table
  { c with registrar, table }.deliver

def close (c : Scenario) : Scenario := { c with link := c.link.close }.deliver

end Scenario

end TunnelAgent.Registrar
