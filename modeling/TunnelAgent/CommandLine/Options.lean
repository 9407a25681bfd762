import TunnelAgent.Text.Parts

/-!
The arguments of the command. An option takes its value from the next argument or, after an equals
sign, from its own; a value that begins with a dash must be written the second way. An option may be
given once. What is not given may come from the environment.
-/

namespace TunnelAgent.CommandLine

inductive OptionName where
  | config
  | gateway
  | username
  | secret
  | agentId
  | socksListen
  | logLevel
  deriving DecidableEq, Repr

namespace OptionName

def all : List OptionName := [config, gateway, username, secret, agentId, socksListen, logLevel]

def text : OptionName → String
  | config => "config"
  | gateway => "gateway"
  | username => "username"
  | secret => "secret"
  | agentId => "agent-id"
  | socksListen => "socks-listen"
  | logLevel => "log-level"

def ofText? (s : String) : Option OptionName := all.find? fun o => o.text == s

/-- The variable that stands in for a missing option. -/
def fallback? : OptionName → Option String
  | gateway => some "GATELINK_GATEWAY"
  | username => some "GATELINK_USERNAME"
  | secret => some "GATELINK_SECRET"
  | agentId => some "GATELINK_AGENT_ID"
  | _ => none

end OptionName

structure Options where
  config : String
  gateway : Option String := none
  username : Option String := none
  secret : Option String := none
  agentId : Option String := none
  socksListen : Option String := none
  logLevel : String := "info"
  /-- no certificate is checked -/
  insecure : Bool := false
  deriving DecidableEq, Repr

/-- Why the command does nothing but print something. -/
inductive Refusal where
  /-- help or the version was asked for -/
  | information
  | usage
  deriving DecidableEq, Repr

/-- What has been given so far. -/
structure Given where
  values : List (OptionName × String) := []
  insecure : Bool := false
  deriving DecidableEq, Repr

namespace Given

/-- An option is given once, and the file's path is not empty. -/
def add (name : OptionName) (value : String) (g : Given) : Except Refusal Given :=
  if (g.values.lookup name).isSome || (name = .config && value.isEmpty) then .error .usage
  else .ok { g with values := (name, value) :: g.values }

def addInsecure (g : Given) : Except Refusal Given :=
  if g.insecure then .error .usage else .ok { g with insecure := true }

end Given

/-- What one argument is, by its own text. -/
inductive Argument where
  /-- an option with its value -/
  | assigned (name : OptionName) (value : String)
  /-- an option whose value is the next argument -/
  | awaiting (name : OptionName)
  | insecure
  | refused (refusal : Refusal)
  | terminator
  deriving DecidableEq, Repr

def longArgument (cs : List Char) : Argument :=
  let (name, value?) := match Text.cutFirst '=' cs with
    | some (name, value) => (String.ofList name, some (String.ofList value))
    | none => (String.ofList cs, none)
  match OptionName.ofText? name, value? with
  | some o, some value => .assigned o value
  | some o, none => .awaiting o
  | none, some _ => .refused .usage
  | none, none =>
    if name = "insecure" then .insecure
    else if name = "help" ∨ name = "version" then .refused .information
    else .refused .usage

def shortArgument : List Char → Argument
  | 'h' :: _ => .refused .information
  | 'V' :: _ => .refused .information
  | ['c'] => .awaiting .config
  | 'c' :: '=' :: value => .assigned .config (String.ofList value)
  | 'c' :: value => .assigned .config (String.ofList value)
  | _ => .refused .usage

def Argument.ofText (s : String) : Argument :=
  match s.toList with
  | ['-', '-'] => .terminator
  | '-' :: '-' :: cs => longArgument cs
  | '-' :: c :: cs => shortArgument (c :: cs)
  | _ => .refused .usage

/-- An argument that can be the value of the option before it. -/
def isValue (s : String) : Bool := s == "-" || s.toList.head? != some '-'

def scan : List String → Given → Except Refusal Given
  | [], g => .ok g
  | arg :: rest, g =>
    match Argument.ofText arg, rest with
    | .assigned name value, rest => (g.add name value).bind (scan rest)
    | .awaiting name, value :: rest =>
      if isValue value then (g.add name value).bind (scan rest) else .error .usage
    | .awaiting _, [] => .error .usage
    | .insecure, rest => g.addInsecure.bind (scan rest)
    | .refused r, _ => .error r
    | .terminator, [] => .ok g
    | .terminator, _ => .error .usage

def Given.find? (environment : String → Option String) (name : OptionName) (g : Given) : Option String :=
  match g.values.lookup name with
  | some value => some value
  | none => name.fallback?.bind environment

/-- The path of the configuration file must be given; all else has a default. -/
def Options.parse (environment : String → Option String) (args : List String) : Except Refusal Options :=
  match scan args {} with
  | .error r => .error r
  | .ok g =>
    match g.find? environment .config with
    | none => .error .usage
    | some config =>
      .ok {
        config
        gateway := g.find? environment .gateway
        username := g.find? environment .username
        secret := g.find? environment .secret
        agentId := g.find? environment .agentId
        socksListen := g.find? environment .socksListen
        logLevel := (g.find? environment .logLevel).getD "info"
        insecure := g.insecure }

end TunnelAgent.CommandLine
