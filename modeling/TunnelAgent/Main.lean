import TunnelAgent.Address.Isolated
import TunnelAgent.CommandLine.Invocation
import TunnelAgent.CommandLine.Standard

/-!
The command. It prints the shown lines of its process as they come, waits out the pauses between
sessions, reports what made it fail, and leaves with the process's exit code. There is no network
below it: every gateway is unreachable.
-/

namespace TunnelAgent.CommandLine

def usage : String := "Usage: gatelink [OPTIONS] --config <CONFIG>"

def readFileText (path : String) : IO (Except FileFault String) := do
  try
    return .ok (← IO.FS.readFile path)
  catch
    | .noFileOrDirectory .. => return .error .noSuchFile
    | e => return .error (.unopened ⟨.other, toString e⟩)

/-- The host as it is now: the environment of the command, and the two files it may read. -/
def surveyHost (args : List String) : IO Host := do
  let names := OptionName.all.filterMap OptionName.fallback?
  let values ← names.filterMapM fun n => return (← IO.getEnv n).map fun v => (n, v)
  let environment := fun n => values.lookup n
  let paths := match Options.parse environment args with
    | .ok options => [options.config]
    | .error _ => []
  let configs ← paths.mapM fun path => return (path, ← readFileText path)
  let bundles := configs.filterMap fun (_, file) => match file with
    | .ok contents => (Standard.readConfig? contents).bind fun c => c.tls.caCertPath
    | .error _ => none
  let files := configs ++ (← bundles.mapM fun path => return (path, ← readFileText path))
  return {
    environment
    files := fun path => (files.lookup path).getD (.error .noSuchFile)
    readConfig := Standard.readConfig?
    listen := ListenAddress.isolated
    dialFault := .io ZonedAddress.unreachable
    readers := Standard.readers
    lasts := Standard.sleep
    freshId := toString (← IO.rand 0 1000000000000000000) }

def printFrom (printed : Nat) (p : Invocation) : IO Nat := do
  let lines := p.shown
  for line in lines.drop printed do
    IO.println line.text
  return lines.length

def report (exit : Exit) : IO Unit := do
  match exit.report with
  | [] => return
  | headline :: causes =>
    IO.eprintln s!"Error: {headline}"
    unless causes.isEmpty do IO.eprintln "\nCaused by:"
    for cause in causes do IO.eprintln s!"    {cause}"

partial def follow (host : Host) (now : Duration) (printed : Nat) (p : Invocation) : IO UInt32 := do
  let p := p.runFor host now 64
  let printed ← printFrom printed p
  match p.exit with
  | some exit =>
    report exit
    return UInt32.ofNat exit.code
  | none =>
    let next := max (now + 1) ((p.due?).getD (now + 1))
    IO.sleep (UInt32.ofNat ((next - now) / 1000000 + 1))
    follow host next printed p

/-- Arguments that cannot be used, or that only ask for information, are answered with the usage. -/
def printRefusal (host : Host) (args : List String) : IO Unit := do
  match Options.parse host.environment args with
  | .error .information => IO.println usage
  | .error .usage => IO.eprintln usage
  | .ok _ => return

end TunnelAgent.CommandLine

open TunnelAgent.CommandLine in
def main (args : List String) : IO UInt32 := do
  let host ← surveyHost args
  printRefusal host args
  follow host 0 0 (Invocation.start host args)
