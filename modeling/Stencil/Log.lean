/-
  Log events of the command line.

  * `Level.ofVerbosity` is the level that repeated `-v` flags ask for;
  * `Event.line` is the printed form: the level, the target, the message and
    the fields;
  * a `Filter` keeps an event by the most specific rule for its target.
-/
import Stencil.Text

namespace Stencil.Log

/-- How important an event is; later levels are less so. -/
inductive Level where
  | error
  | warn
  | info
  | debug
  | trace
  deriving DecidableEq, Repr

namespace Level

/-- The position of a level, the most important one first. -/
def rank : Level → Nat
  | error => 1
  | warn => 2
  | info => 3
  | debug => 4
  | trace => 5

/-- The name of a level in filters. -/
def name : Level → Text
  | error => "error".toList
  | warn => "warn".toList
  | info => "info".toList
  | debug => "debug".toList
  | trace => "trace".toList

/-- The level that a number of `-v` flags asks for. -/
def ofVerbosity : Nat → Level
  | 0 => warn
  | 1 => info
  | 2 => debug
  | _ => trace

/-- The label of a level in a line, five characters wide. -/
def label : Level → Text
  | error => "ERROR".toList
  | warn => " WARN".toList
  | info => " INFO".toList
  | debug => "DEBUG".toList
  | trace => "TRACE".toList

end Level

/-- Something that happened. -/
structure Event where
  level : Level
  target : Text
  message : Text
  fields : List (Text × Text)

/-- A character of a message; one that can begin a control sequence of a terminal is
    written as an escape. -/
def visible (c : Char) : Text :=
  if c.toNat ∈ [0x07, 0x08, 0x0C, 0x1B, 0x7F] then
    ['\\', 'x', Nat.digitChar (c.toNat / 16), Nat.digitChar (c.toNat % 16)]
  else if 0x80 ≤ c.toNat ∧ c.toNat ≤ 0x9F then
    ['\\', 'u', '\x7b', Nat.digitChar (c.toNat / 16), Nat.digitChar (c.toNat % 16), '\x7d']
  else [c]

/-- The line of an event. -/
def Event.line (e : Event) : Text :=
  e.level.label ++ ' ' :: e.target ++ ": ".toList ++ e.message.flatMap visible ++
    e.fields.flatMap (fun (k, v) => ' ' :: k ++ '=' :: v) ++ ['\n']

/-! ## Filters -/

/-- A rule of a filter. -/
structure Rule where
  /-- How the targets begin that the rule is for; all targets if absent. -/
  target? : Option Text
  /-- The least important level that is kept; no event is kept if absent. -/
  level? : Option Level
  /-- Whether the rule is for events inside of spans only. -/
  inSpan : Bool

namespace Rule

/-- A level as a rule writes it: a name in any case of letters, or a number; the outer
    option is absent for other texts. -/
def level?OfText (text : Text) : Option (Option Level) :=
  let levels : List Level := [.error, .warn, .info, .debug, .trace]
  match Text.number? text with
  | some 0 => some none
  | some n => (levels.find? fun l => l.rank = n).map some
  | none =>
    let name := text.map Char.toLower
    if name = "off".toList then some none else (levels.find? fun l => l.name = name).map some

/-- The level after the sign of equality; all levels if there is no text. -/
def levelAfter? (text : Text) : Option (Option Level) :=
  if text.isEmpty then some (some .trace) else level?OfText text

/-- The rule about spans whose name begins after a bracket. -/
def ofSpan? (target? : Option Text) (text : Text) : Option Rule :=
  match Text.splitAt? (· = ']') text with
  | some (_, []) => some ⟨target?, some .trace, true⟩
  | some (_, '=' :: level) => (levelAfter? level).map fun l => ⟨target?, l, true⟩
  | _ => none

/-- The rule of a text: a level, a target, or a target with a level. -/
def ofText? (text : Text) : Option Rule :=
  match text with
  | [] => none
  | '[' :: rest => ofSpan? none rest
  | c :: _ =>
    if !(c.isAlphanum || 0x80 ≤ c.toNat || c ∈ ['-', ':', '_']) then none
    else
      match Text.splitAt? (fun c => c = '=' || c = '[') text with
      | none =>
        match level?OfText text with
        | some level? => some ⟨none, level?, false⟩
        | none => some ⟨some text, some .trace, false⟩
      | some (target, rest) =>
        if (text.drop target.length).head? = some '[' then ofSpan? (some target) rest
        else (levelAfter? rest).map fun level? => ⟨some target, level?, false⟩

/-- Whether the rule is about an event outside of spans. -/
def covers (r : Rule) (e : Event) : Bool :=
  !r.inSpan && r.target?.all fun target => Text.startsWith target e.target

/-- How specific the rule is. -/
def weight (r : Rule) : Nat := (r.target?.map fun target => target.length + 1).getD 0

end Rule

/-- Which events are kept. -/
structure Filter where
  rules : List Rule

namespace Filter

/-- The filter that keeps the events up to a level. -/
def upTo (level : Level) : Filter := ⟨[⟨none, some level, false⟩]⟩

/-- The filter of a text with rules between commas; without a rule it keeps errors. -/
def ofText? (text : Text) : Option Filter := do
  let rules ← ((Text.splitOn ',' text).filter fun part => !part.isEmpty).mapM Rule.ofText?
  return if rules.isEmpty then upTo .error else ⟨rules⟩

/-- The most specific rule about an event, the later one of two that are equal. -/
def rule? (f : Filter) (e : Event) : Option Rule :=
  (f.rules.filter (Rule.covers · e)).foldl (fun best r =>
    match best with
    | some b => if b.weight ≤ r.weight then some r else some b
    | none => some r) none

/-- Whether an event is kept. -/
def keeps (f : Filter) (e : Event) : Bool :=
  match f.rule? e with
  | some ⟨_, some level, _⟩ => e.level.rank ≤ level.rank
  | _ => false

/-- The lines of the events that are kept. -/
def lines (f : Filter) (events : List Event) : Text := (events.filter f.keeps).flatMap Event.line

end Filter

end Stencil.Log
