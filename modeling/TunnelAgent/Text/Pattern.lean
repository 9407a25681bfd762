import TunnelAgent.Document.Reader

/-!
Patterns: the syntax of regular expressions, with groups, classes, escapes and repetition, but
without references to groups, looks around, and word boundaries. `isPattern` tells which texts
are patterns. Every step reads at least one character, so the length of the text bounds the steps.
-/

namespace TunnelAgent.Text.Pattern

/-- The character with that many hexadecimal digits at the front. -/
def readHex (width : Nat) (cs : List Char) : Option (Option Char × List Char) :=
  let digits := (cs.take width).filterMap Document.hexValue?
  let n := digits.foldl (fun acc d => acc * 16 + d) 0
  if digits.length = width ∧ n.isValidChar then some (some (Char.ofNat n), cs.drop width) else none

def controls : List (Char × Char) :=
  [('a', '\x07'), ('f', '\x0c'), ('t', '\t'), ('n', '\n'), ('r', '\r'), ('v', '\x0b')]

/-- What follows a backslash: a character, or nothing if it stands for a class or a place. -/
def readEscape (inClass : Bool) : List Char → Option (Option Char × List Char)
  | [] => none
  | c :: rest =>
    match controls.lookup c with
    | some control => some (some control, rest)
    | none =>
      if "dswDSW".toList.contains c then some (none, rest)
      else if c = 'p' ∨ c = 'P' then
        if (rest.take 1).any fun k => "clmnpsz".toList.contains k.toLower then some (none, rest.drop 1)
        else none
      else if c = 'A' ∨ c = 'z' then if inClass then none else some (none, rest)
      else if c = 'x' then readHex 2 rest
      else if c = 'u' then readHex 4 rest
      else if c = 'U' then readHex 8 rest
      else if c.toNat < 128 ∧ !c.isAlphanum ∧ c ≠ '<' ∧ c ≠ '>' then some (some c, rest)
      else none

def classNames : List String := ["alnum", "alpha", "ascii", "blank", "cntrl", "digit", "graph",
  "lower", "print", "punct", "space", "upper", "word", "xdigit"]

/-- The rest behind a named class, whose opening bracket has been read. -/
def readNamedClass (cs : List Char) : Option (List Char) :=
  (classNames.flatMap fun name => [s!":{name}:]", s!":^{name}:]"]).findSome? fun text =>
    if text.toList.isPrefixOf cs then some (cs.drop text.length) else none

/-- What may stand at the front of a class without its usual meaning is passed over. -/
def openClass (cs : List Char) : List Char :=
  let cs := match cs with
    | '^' :: rest => rest
    | cs => cs
  match cs with
  | '-' :: rest => rest.dropWhile (· == '-')
  | ']' :: rest => rest
  | cs => cs

def readClassItem : List Char → Option (Option Char × List Char)
  | [] => none
  | '\\' :: rest => readEscape true rest
  | c :: rest => some (some c, rest)

/-- The rest behind the class that is open, `depth` classes deep. -/
def readClass : Nat → Nat → List Char → Option (List Char)
  | 0, _, _ => none
  | n + 1, depth, cs =>
    match cs with
    | [] => none
    | ']' :: rest => if depth ≤ 1 then some rest else readClass n (depth - 1) rest
    | '[' :: rest =>
      match readNamedClass rest with
      | some rest => readClass n depth rest
      | none => readClass n (depth + 1) (openClass rest)
    | '&' :: '&' :: rest => readClass n depth rest
    | '-' :: '-' :: rest => readClass n depth rest
    | '~' :: '~' :: rest => readClass n depth rest
    | cs =>
      match readClassItem cs with
      | none => none
      | some (low, '-' :: rest) =>
        if rest.head? = some ']' ∨ rest.head? = some '-' then readClass n depth ('-' :: rest)
        else
          match low, readClassItem rest with
          | some low, some (some high, rest) => if low ≤ high then readClass n depth rest else none
          | _, _ => none
      | some (_, rest) => readClass n depth rest

def isGroupName : List Char → Bool
  | [] => false
  | c :: rest => (c.isAlpha || c == '_') &&
      rest.all fun c => c.isAlphanum || c == '_' || c == '.' || c == '[' || c == ']'

/-- Each flag at most once; a minus has flags behind it. -/
def areFlags (cs : List Char) : Bool :=
  let count := fun c => (cs.filter (· == c)).length
  cs.all (fun c => "imsUuxR-".toList.contains c && count c ≤ 1) && cs.getLast? != some '-'

/-- What follows `(?`: whether it opens a group, and the rest. -/
def readGroup (cs : List Char) : Option (Bool × List Char) :=
  let named (cs : List Char) :=
    let name := cs.takeWhile (· != '>')
    if isGroupName name ∧ name.length < cs.length then some (true, cs.drop (name.length + 1)) else none
  match cs with
  | 'P' :: '<' :: rest => named rest
  | '<' :: rest => named rest
  | cs =>
    let isEnd := fun c => c == ':' || c == ')'
    let flags := cs.takeWhile fun c => !isEnd c
    match cs.drop flags.length with
    | ':' :: rest => if areFlags flags then some (true, rest) else none
    | ')' :: rest => if areFlags flags ∧ flags ≠ [] then some (false, rest) else none
    | _ => none

/-- Reads on inside `depth` groups; `repeatable` if there is something to repeat. -/
def readAll : Nat → Nat → Bool → List Char → Bool
  | 0, _, _, _ => false
  | n + 1, depth, repeatable, cs =>
    match cs with
    | [] => depth == 0
    | '(' :: '?' :: rest =>
      match readGroup rest with
      | none => false
      | some (opens, rest) => readAll n (if opens then depth + 1 else depth) false rest
    | '(' :: rest => readAll n (depth + 1) false rest
    | ')' :: rest => depth != 0 && readAll n (depth - 1) true rest
    | '|' :: rest => readAll n depth false rest
    | '[' :: rest =>
      match readClass (rest.length + 1) 1 (openClass rest) with
      | none => false
      | some rest => readAll n depth true rest
    | '{' :: _ => false
    | '\\' :: rest =>
      match readEscape false rest with
      | none => false
      | some (_, rest) => readAll n depth true rest
    | c :: rest =>
      if c = '*' ∨ c = '+' ∨ c = '?' then repeatable && readAll n depth true rest
      else readAll n depth true rest

def isPattern (cs : List Char) : Bool := readAll (cs.length + 1) 0 false cs

end TunnelAgent.Text.Pattern
