import TunnelAgent.Document.Reader

/-!
Line breaks in the quoted texts of a file. Inside quotes a line break, together with the blanks
around it, is folded: one break becomes a space, of several the first is dropped and the others
stay. The separators of lines and paragraphs are breaks that are kept as they are. `joinLines?`
gives a file in which every quoted text stands on one line; it fails where such a text breaks the
rules for lines: a line that begins like a document mark, or the name of a field that is broken
or too long.
-/

namespace TunnelAgent.Document.Folding

/-- Line feed, carriage return, next line, and the separators of lines and paragraphs. -/
def isBreak (c : Char) : Bool :=
  c == '\n' || c == '\r' || c == '\u0085' || c == '\u2028' || c == '\u2029'

def isSeparator (c : Char) : Bool := c == '\u2028' || c == '\u2029'

/-- A break as it is kept. -/
def keptBreak (c : Char) : Char := if isSeparator c then c else '\n'

def isSpace (c : Char) : Bool := c == ' ' || c == '\t'

/-- The characters since the last one that was no blank. -/
inductive Gap where
  /-- blanks, last first -/
  | blanks (cs : List Char)
  /-- breaks, last first; `isFresh` if nothing of the new line has been read -/
  | breaks (first : Char) (more : List Char) (isFresh : Bool)
  deriving DecidableEq, Repr

namespace Gap

def push (c : Char) (gap : Gap) : Gap :=
  if isBreak c then
    match gap with
    | blanks _ => breaks (keptBreak c) [] true
    | breaks first more _ => breaks first (keptBreak c :: more) true
  else
    match gap with
    | blanks cs => blanks (c :: cs)
    | breaks first more _ => breaks first more false

/-- What a gap is read as. -/
def folded : Gap → List Char
  | blanks cs => cs.reverse
  | breaks first more _ =>
    if isSeparator first then first :: more.reverse
    else if more.isEmpty then [' ']
    else more.reverse

/-- Whether a text that goes on with `cs` behind this gap looks like a document mark. -/
def isMark (cs : List Char) : Gap → Bool
  | breaks _ _ true =>
    (["---".toList, "...".toList].any fun mark => mark.isPrefixOf cs) &&
      (match cs.drop 3 with
        | c :: _ => isSpace c || isBreak c
        | [] => true)
  | _ => false

end Gap

/-- The most bytes from the first quote of a name to the colon behind it. -/
def longestName : Nat := 1024

/-- Where in a file a character stands. `length` counts the bytes from the opening quote on,
`broken` says whether a break is among them. -/
inductive Place where
  | plain
  | quoted (gap : Gap) (length : Nat) (broken : Bool)
  /-- behind a backslash -/
  | escaped (length : Nat) (broken : Bool)
  /-- behind a closing quote -/
  | closed (length : Nat) (broken : Bool)
  deriving DecidableEq, Repr

/-- A break in a quoted text on one line. -/
def spell (c : Char) : List Char := if c = '\n' then ['\\', 'n'] else [c]

def isInGap (c : Char) : Bool := isSpace c || isBreak c

/-- What is written for a character, and the place of the next one. -/
def step (place : Place) (c : Char) (rest : List Char) : Option (List Char × Place) :=
  match place with
  | .plain =>
    if c = '"' then some ([c], .quoted (.blanks []) 1 false)
    else some ([if isBreak c then '\n' else c], .plain)
  | .quoted gap length broken =>
    if c = '\r' ∧ rest.head? = some '\n' then some ([], .quoted gap (length + c.utf8Size) broken)
    else if isInGap c then some ([], .quoted (gap.push c) (length + c.utf8Size) (broken || isBreak c))
    else if gap.isMark (c :: rest) then none
    else
      let before := gap.folded.flatMap spell
      if c = '"' then some (before ++ [c], .closed (length + c.utf8Size) broken)
      else if c = '\\' then some (before ++ [c], .escaped (length + c.utf8Size) broken)
      else some (before ++ [c], .quoted (.blanks []) (length + c.utf8Size) broken)
  | .escaped length broken => some ([c], .quoted (.blanks []) (length + c.utf8Size) broken)
  | .closed length broken =>
    if c = ':' then
      if broken || longestName < length then none else some ([c], .plain)
    else if isSpace c then some ([c], .closed (length + c.utf8Size) broken)
    else if isBreak c then some (['\n'], .closed (length + c.utf8Size) true)
    else some ([c], .plain)

/-- Goes on from a place; `acc` holds what is written, last first. -/
def joinLinesFrom (place : Place) (acc : List Char) : List Char → Option (List Char)
  | [] => some acc.reverse
  | c :: rest =>
    match step place c rest with
    | none => none
    | some (written, place) => joinLinesFrom place (written.reverse ++ acc) rest

def joinLines? (cs : List Char) : Option (List Char) := joinLinesFrom .plain [] cs

end TunnelAgent.Document.Folding
