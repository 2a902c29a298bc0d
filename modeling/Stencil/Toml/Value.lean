/-
  TOML values and the tables that a document builds.

  * a `Value` keeps the text of a float and of a date-time as it was written;
  * the `Origin` of a table says how it came into being, which decides what may
    still be added to it;
  * `insertDotted` adds a value under a dotted key, `openTable` and `openItem` begin
    the table of a header, `update` changes the table of a header. None of them
    defines anything twice.
-/
import Stencil.Text

namespace Stencil.Toml

/-- How a table came into being. -/
inductive Origin where
  /-- By its own header. -/
  | header
  /-- On the way to the table of a longer header. -/
  | implied
  /-- By a dotted key. -/
  | dotted
  /-- As an inline table, which is closed. -/
  | inline
  deriving DecidableEq, Repr

/-- A TOML value. -/
inductive Value where
  | string (text : Text)
  | integer (n : Int)
  /-- A float, as it was written. -/
  | float (text : Text)
  | boolean (b : Bool)
  /-- A date, a time or both, as it was written. -/
  | dateTime (text : Text)
  | array (items : List Value)
  | table (origin : Origin) (members : List (Text × Value))
  /-- An array of tables made by headers; the last one is open. -/
  | tables (items : List (List (Text × Value)))

/-- The members of a table, in the order of their definition. -/
abbrev Members := List (Text × Value)

namespace Members

/-- The value of a key. -/
def value? (key : Text) (ms : Members) : Option Value :=
  (ms.find? fun m => m.1 == key).map Prod.snd

/-- The members with a value for a new key. -/
def define? (key : Text) (v : Value) (ms : Members) : Option Members :=
  match ms.value? key with
  | none => some (ms ++ [(key, v)])
  | some _ => none

/-- The members with another value for a key. -/
def replace (key : Text) (v : Value) (ms : Members) : Members :=
  ms.map fun m => if m.1 = key then (key, v) else m

/-- Applies a change to the last of some tables. -/
def changeLast? (change : Members → Option Members) (items : List Members) :
    Option (List Members) :=
  match items.getLast? with
  | some last => (change last).map fun changed => items.dropLast ++ [changed]
  | none => none

/-- Adds a value under a key that follows a dotted path. The tables on the way are made
    by dotted keys; one that a longer header implied may be passed but not ended in. -/
def insertDotted (key : Text) (v : Value) : List Text → Members → Option Members
  | [], ms => ms.define? key v
  | k :: rest, ms =>
    match ms.value? k with
    | none => (insertDotted key v rest []).map fun inner => ms ++ [(k, .table .dotted inner)]
    | some (.table origin inner) =>
      if origin = .dotted ∨ (origin = .implied ∧ rest ≠ []) then
        (insertDotted key v rest inner).map fun inner => ms.replace k (.table origin inner)
      else none
    | some (.tables items) =>
      if rest = [] then none
      else (changeLast? (insertDotted key v rest) items).map fun items => ms.replace k (.tables items)
    | some _ => none

/-- Changes the table that a path of headers leads to; tables that are missing on the
    way are implied. -/
def update (change : Members → Option Members) : List Text → Members → Option Members
  | [], ms => change ms
  | k :: rest, ms =>
    match ms.value? k with
    | none => (update change rest []).map fun inner => ms ++ [(k, .table .implied inner)]
    | some (.table origin inner) =>
      if origin = .inline then none
      else (update change rest inner).map fun inner => ms.replace k (.table origin inner)
    | some (.tables items) =>
      (changeLast? (update change rest) items).map fun items => ms.replace k (.tables items)
    | some _ => none

/-- Begins the table of a header `[path.key]`, which may have been implied before. -/
def openTable (path : List Text) (key : Text) : Members → Option Members :=
  update (fun ms =>
    match ms.value? key with
    | none => some (ms ++ [(key, .table .header [])])
    | some (.table .implied inner) => some (ms.replace key (.table .header inner))
    | some _ => none) path

/-- Begins the next table of a header `[[path.key]]`. -/
def openItem (path : List Text) (key : Text) : Members → Option Members :=
  update (fun ms =>
    match ms.value? key with
    | none => some (ms ++ [(key, .tables [[]])])
    | some (.tables items) => some (ms.replace key (.tables (items ++ [[]])))
    | some _ => none) path

end Members

end Stencil.Toml
