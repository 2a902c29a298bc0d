/-
  TOML documents.

  * `valueWithin` reads a value whose arrays and inline tables are nested a bounded
    number of times;
  * `statement` reads one line: a header, which begins a table, or a key with a value,
    which goes into the table begun last;
  * `parse?` is the table of a document, or nothing if the text is not TOML.
-/
import Stencil.Toml.Reader

namespace Stencil.Toml

namespace Reader

/-! ## Keys -/

/-- A character of a key without quotes. -/
def isBare (c : Char) : Bool := c.isAlphanum || c = '_' || c = '-'

/-- Takes one part of a key. -/
def keyPart : Reader Text := basic <|> literal <|> oneOrMore isBare

/-- The number of parts that a key may have. -/
def keyLimit : Nat := 79

/-- Takes a key of at most so many parts. -/
def keyWithin : Nat → Reader (List Text)
  | 0 => failure
  | n + 1 => do
    spaces
    let part ← keyPart
    spaces
    if ← accept '.' then return part :: (← keyWithin n) else return [part]

/-- Takes a key: the path to its table, and its last part. -/
def key : Reader (List Text × Text) := do
  let parts ← keyWithin keyLimit
  match parts.getLast? with
  | some last => return (parts.dropLast, last)
  | none => failure

/-! ## Values -/

/-- Takes a word that is a value. -/
def boolean : Reader Bool :=
  (do exactly "true".toList; return true) <|> (do exactly "false".toList; return false)

/-- Takes a value that holds no other values. -/
def scalar : Reader Value :=
  (.string <$> string) <|> (.dateTime <$> dateTime) <|> (.float <$> float) <|>
    (.integer <$> integer) <|> (.boolean <$> boolean)

/-- The items of an array up to its end; a comma may follow the last one. -/
def items (item : Reader Value) : Nat → Reader (List Value)
  | 0 => failure
  | n + 1 => do
    gap
    if ← accept ']' then return []
    let v ← item
    gap
    if ← accept ',' then return v :: (← items item n)
    exactly [']']
    return [v]

/-- Takes an array. -/
def array (item : Reader Value) : Reader Value := do
  exactly ['[']
  let bound := (← get).length + 1
  .array <$> items item bound

/-- The members of an inline table up to its end. -/
def pairs (item : Reader Value) : Nat → Reader (List ((List Text × Text) × Value))
  | 0 => failure
  | n + 1 => do
    let k ← key
    exactly ['=']
    spaces
    let v ← item
    spaces
    if ← accept ',' then return (k, v) :: (← pairs item n)
    exactly ['\x7d']
    return [(k, v)]

/-- Takes an inline table. -/
def inlineTable (item : Reader Value) : Reader Value := do
  exactly ['\x7b']
  spaces
  if ← accept '\x7d' then return .table .inline []
  let bound := (← get).length + 1
  let found ← pairs item bound
  .table .inline <$>
    found.foldlM (fun (ms : Members) ((path, last), v) => ms.insertDotted last v path) []

/-- Takes a value in which arrays and inline tables are nested at most so many times. -/
def valueWithin : Nat → Reader Value
  | 0 => scalar
  | n + 1 => scalar <|> array (valueWithin n) <|> inlineTable (valueWithin n)

/-- The number of times that arrays and inline tables may be nested. -/
def nestingLimit : Nat := 79

/-- Takes a value. -/
def value : Reader Value := valueWithin nestingLimit

end Reader

/-! ## Lines -/

/-- A document so far: its table, and the path of the header read last. -/
structure Document where
  root : Members
  header : List Text

namespace Document

open Reader

/-- Takes a header and begins its table. -/
def headerLine (d : Document) : Reader Document := do
  exactly ['[']
  let isItem ← accept '['
  let (path, last) ← key
  exactly (if isItem then [']', ']'] else [']'])
  lineEnd
  let root ← if isItem then Members.openItem path last d.root else Members.openTable path last d.root
  return ⟨root, path ++ [last]⟩

/-- Takes a key with its value and adds it to the table begun last. -/
def pairLine (d : Document) : Reader Document := do
  let (path, last) ← key
  exactly ['=']
  spaces
  let v ← value
  lineEnd
  let root ← Members.update (Members.insertDotted last v path) d.header d.root
  return ⟨root, d.header⟩

/-- Takes one line. -/
def statement (d : Document) : Reader Document := do
  match ← peek with
  | some '[' => headerLine d
  | some '#' | some '\n' | some '\r' => do lineEnd; return d
  | _ => pairLine d

/-- Takes all lines, of which there are at most so many. -/
def lines (d : Document) : Nat → Reader Document
  | 0 => failure
  | n + 1 => do
    spaces
    if (← peek).isNone then return d
    lines (← statement d) n

/-- The document without lines. -/
def empty : Document := ⟨[], []⟩

end Document

/-- The mark that may stand before a document. -/
def byteOrderMark : Char := Char.ofNat 0xFEFF

/-- The table of a document, if the text is one. -/
def parse? (text : Text) : Option Members :=
  let text := if text.head? = some byteOrderMark then text.drop 1 else text
  ((Document.empty.lines (text.length + 1)).run text).map fun (d, _) => d.root

end Stencil.Toml
