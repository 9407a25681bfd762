import TunnelAgent.Binary64.Text
import TunnelAgent.Document

/-!
Typed values of documents. A reader takes exactly the documents that stand for a value of its type:
whole numbers within their range, numbers, flags, lists. What stands for a text or for a record
depends on the form of the document: in a file an unquoted scalar is the text it is spelled with,
and a record names its entries.
-/

namespace TunnelAgent.Document

/-- Where a document stands. -/
inductive Form where
  /-- in exchanged data: texts are quoted, and a record may also list its entries in order -/
  | exchanged
  /-- in a file: any scalar is a text, and records name their entries -/
  | filed
  deriving DecidableEq, Repr

def text? (form : Form) : Document → Option String
  | text s => some s
  | d =>
    match form, d with
    | .filed, null => some "null"
    | .filed, truth b => some (if b then "true" else "false")
    | .filed, number lexeme => some lexeme
    | _, _ => none

/-- A whole number from zero to `limit`. -/
def whole? (limit : Nat) : Document → Option Nat
  | number lexeme =>
    match Numeral.read limit lexeme.toList with
    | .ok n => some n
    | .error _ => none
  | _ => none

def word16? (d : Document) : Option UInt16 := (d.whole? Numeral.maxU16).map UInt16.ofNat
def word32? (d : Document) : Option UInt32 := (d.whole? Numeral.maxU32).map UInt32.ofNat
def word64? (d : Document) : Option UInt64 := (d.whole? Numeral.maxU64).map UInt64.ofNat

/-- Any whole number that fits a 64-bit word. -/
def count? (d : Document) : Option Nat := d.whole? Numeral.maxU64

def real? : Document → Option Binary64
  | number lexeme => Binary64.read lexeme
  | _ => none

def flag? : Document → Option Bool
  | truth b => some b
  | _ => none

def list? {α : Type} (read : Document → Option α) : Document → Option (List α)
  | items values => values.mapM read
  | _ => none

/-- `null` stands for nothing. -/
def optional? {α : Type} (read : Document → Option α) : Document → Option (Option α)
  | null => some none
  | d => (read d).map some

/-- The entries of a record: named, each of `names` at most once, or in exchanged data listed in
the order of `names`. Other named entries are left alone. -/
def entries? (form : Form) (names : List String) : Document → Option (List (String × Document))
  | fields entries =>
    if names.all fun n => (entries.filter fun e => e.1 == n).length ≤ 1 then some entries else none
  | items values =>
    if form = .exchanged ∧ values.length ≤ names.length then some (names.zip values) else none
  | _ => none

/-- An entry that must be there. -/
def required {α : Type} (entries : List (String × Document)) (name : String)
    (read : Document → Option α) : Option α :=
  (entries.lookup name).bind read

/-- An entry that may be missing. -/
def defaulted {α : Type} (entries : List (String × Document)) (name : String)
    (read : Document → Option α) (default : α) : Option α :=
  match entries.lookup name with
  | none => some default
  | some d => read d

end TunnelAgent.Document
