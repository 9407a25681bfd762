import TunnelAgent.CommandLine.Directive

/-!
Which log lines are shown. A filter is a list of directives between commas; the first to go of
those that care about a line decides, the later of two alike. Without any directive, errors are
shown.
-/

namespace TunnelAgent.CommandLine

abbrev LogFilter := List Directive

namespace LogFilter

def read? (s : String) : Option LogFilter :=
  let texts := (Text.parts ',' s.toList).filter fun cs => !cs.isEmpty
  (texts.mapM Directive.read?).map fun ds => if ds.isEmpty then [{ rank := Level.error.rank }] else ds

/-- The directive that decides on a line outside all spans. -/
def deciding? (filter : LogFilter) (line : LogLine) : Option Directive :=
  (filter.filter fun d => d.isStatic && d.caresAbout line).foldl
    (fun best d =>
      match best with
      | some b => if d.goesBefore b then some d else best
      | none => some d)
    none

def shows (filter : LogFilter) (line : LogLine) : Bool :=
  match filter.deciding? line with
  | some d => line.level.rank ≤ d.rank
  | none => false

end LogFilter

end TunnelAgent.CommandLine
