import TunnelAgent.Binary64.Text
import TunnelAgent.CommandLine.LogLine
import TunnelAgent.Text.Letters
import TunnelAgent.Text.Parts
import TunnelAgent.Text.Pattern

/-!
Directives of a log filter. A directive is a level, or names what it is about: a target, behind it
perhaps in brackets a span and in braces a field, and behind an equals sign the level that is shown
of it. Without a level everything is. The blanks around a directive do not count for where its
parts begin and end, but the parts are cut from the text as it was given, at the same places.
-/

namespace TunnelAgent.CommandLine

/-- A field that a line must carry, perhaps with a value that it must have. -/
structure FieldFilter where
  name : String
  hasValue : Bool
  deriving DecidableEq, Repr

structure Directive where
  target : Option String := none
  span : Option String := none
  field : Option FieldFilter := none
  rank : Nat := Level.trace.rank
  deriving DecidableEq, Repr

namespace Level

/-- The ranks that levels are written with, in any case. -/
def ranks : List (String × Nat) :=
  [("off", 0), ("error", error.rank), ("warn", warn.rank), ("info", info.rank), ("debug", debug.rank),
    ("trace", trace.rank)]

/-- The rank a level is written with, by name or as a number. -/
def readRank? (s : String) : Option Nat :=
  match Numeral.read trace.rank s.toList with
  | .ok rank => some rank
  | .error _ => ranks.lookup (String.ofList (s.toList.map Char.toLower))

end Level

namespace FieldFilter

/-- A value is a number or a pattern. -/
def isValue (cs : List Char) : Bool := (Binary64.read (String.ofList cs)).isSome || Text.Pattern.isPattern cs

/-- A name, with a value between a first and a second equals sign. -/
def read? (cs : List Char) : Option FieldFilter :=
  match Text.parts '=' cs with
  | [name] => if name.isEmpty then none else some ⟨String.ofList name, false⟩
  | name :: value :: _ => if isValue value then some ⟨String.ofList name, true⟩ else none
  | [] => none

end FieldFilter

namespace Directive

/-- The text between two places, counted in bytes; `none` if a place is inside a character. -/
def cut? (start stop : Nat) : List Char → Option (List Char)
  | [] => some []
  | c :: rest =>
    let n := c.utf8Size
    if stop = 0 then some []
    else if 0 < start then if n ≤ start then cut? (start - n) (stop - n) rest else none
    else if n ≤ stop then (cut? 0 (stop - n) rest).map (c :: ·)
    else none

/-- Which part of a directive is being read, and where it began. -/
inductive Part where
  | beginning
  | target (start : Nat)
  | span (start : Nat)
  | field (start : Nat)
  /-- behind a field -/
  | fieldEnd
  /-- behind the brackets -/
  | spanEnd
  | level (start : Nat)
  deriving DecidableEq, Repr

def isBeginning (c : Char) : Bool := c == '-' || c == ':' || c == '_' || Text.isLetterOrDigit c

/-- The character `c` stands at place `at`; parts are cut from `cs`. -/
def step (cs : List Char) (part : Part) (d : Directive) (place : Nat) (c : Char) : Option (Part × Directive) :=
  let named (start : Nat) : Option String := (cut? start place cs).map String.ofList
  let next := place + 1
  match part, c with
  | .beginning, '[' => some (.span next, d)
  | .beginning, c => if isBeginning c then some (.target place, d) else none
  | .target start, '=' => (named start).map fun name => (.level next, { d with target := some name })
  | .target start, '[' => (named start).map fun name => (.span next, { d with target := some name })
  | .span start, ']' => (named start).map fun name => (.spanEnd, { d with span := some name })
  | .span start, '\x7b' => (named start).map fun name =>
      (.field next, { d with span := if name.isEmpty then none else some name })
  | .field start, '\x7d' =>
    ((cut? start place cs).bind FieldFilter.read?).map fun field => (.fieldEnd, { d with field := some field })
  | .fieldEnd, ']' => some (.spanEnd, d)
  | .spanEnd, '=' => some (.level next, d)
  | .fieldEnd, _ => none
  | .spanEnd, _ => none
  | part, _ => some (part, d)

/-- The part that the text ends in. -/
def close (cs : List Char) (part : Part) (d : Directive) : Option Directive :=
  let tail (start : Nat) : Option String := (cut? start (cs.foldl (· + ·.utf8Size) 0) cs).map String.ofList
  match part with
  | .target start => (tail start).map fun s =>
      match Level.readRank? s with
      | some rank => { d with rank }
      | none => { d with target := some s }
  | .level start => (tail start).bind fun s =>
      if s.isEmpty then some d else (Level.readRank? s).map fun rank => { d with rank }
  | .spanEnd => some d
  | _ => none

def readFrom (cs : List Char) (part : Part) (d : Directive) (place : Nat) : List Char → Option Directive
  | [] => close cs part d
  | c :: rest =>
    match step cs part d place c with
    | none => none
    | some (part, d) => readFrom cs part d (place + c.utf8Size) rest

def read? (cs : List Char) : Option Directive := readFrom cs .beginning {} 0 (Text.trim cs)

/-- Whether it decides on lines by themselves. One that asks for a span or for a value decides
only inside spans. -/
def isStatic (d : Directive) : Bool := d.span.isNone && !(d.field.any FieldFilter.hasValue)

/-- A directive cares about the lines of all targets that begin with its own, if they carry its
field. -/
def caresAbout (d : Directive) (line : LogLine) : Bool :=
  d.target.all (fun target => target.toList.isPrefixOf line.target.toList) &&
    d.field.all fun field => line.fieldNames.contains field.name

/-- The length of the target, the first of two grounds for one directive to go before another. -/
def reach (d : Directive) : Nat :=
  match d.target with
  | none => 0
  | some target => target.utf8ByteSize + 1

/-- Whether a directive goes before another that cares about the same line: the longer target
first, then one with a field, then the later name of a field. -/
def goesBefore (d e : Directive) : Bool :=
  if d.reach = e.reach then
    match d.field, e.field with
    | some f, some g => g.name ≤ f.name
    | none, some _ => false
    | _, none => true
  else e.reach < d.reach

end Directive

end TunnelAgent.CommandLine
