/-
  The arguments of the command line.

  * a `Switch` is an option, a `Verb` one of the commands; each command has its own
    switches, and some may stand before the command too;
  * `items` cuts arguments into switches with their values, the command, and words,
    up to the first one that is wrong;
  * `parse` is what the arguments ask for: a `Request`, a text about the program, or
    nothing because of a `Misuse`.
-/
import Stencil.Path

namespace Stencil.CommandLine

/-! ## Switches and commands -/

/-- A command. -/
inductive Verb where
  | generate
  | render
  deriving DecidableEq, Repr

/-- The command of a name. -/
def Verb.ofName? (name : Text) : Option Verb :=
  if name = "generate".toList then some .generate
  else if name = "render".toList then some .render
  else none

/-- An option. -/
inductive Switch where
  | verbose
  | root
  | out
  | locale
  | json
  | includes
  | help
  | version
  deriving DecidableEq, Repr

namespace Switch

/-- The name of a switch after two dashes. -/
def name : Switch → Text
  | verbose => "verbose".toList
  | root => "root".toList
  | out => "out".toList
  | locale => "locale".toList
  | json => "json".toList
  | includes => "include".toList
  | help => "help".toList
  | version => "version".toList

/-- The letter of a switch after one dash. -/
def letter? : Switch → Option Char
  | verbose => some 'v'
  | help => some 'h'
  | version => some 'V'
  | _ => none

/-- Whether a switch has a value. -/
def takesValue : Switch → Bool
  | root | out | locale | includes => true
  | _ => false

/-- Whether the value of a switch is a path, which is never empty. -/
def takesPath : Switch → Bool
  | root | out | includes => true
  | _ => false

/-- Whether a switch may be given more than once. -/
def repeats : Switch → Bool
  | verbose | includes => true
  | _ => false

/-- The switches before the command, or those of a command. -/
def all : Option Verb → List Switch
  | none => [verbose, root, help, version]
  | some .generate => [verbose, root, out, locale, json, help]
  | some .render => [verbose, root, includes, locale, help]

end Switch

/-! ## Cutting arguments -/

/-- What is wrong with arguments. -/
inductive Misuse where
  | unknownSwitch
  | missingValue
  | unexpectedValue
  | repeated
  | unexpectedWord
  | missingCommand
  | missingTemplate
  deriving DecidableEq, Repr

/-- The words for a misuse. -/
def Misuse.message : Misuse → Text
  | unknownSwitch => "unexpected argument found".toList
  | missingValue => "a value is required but none was supplied".toList
  | unexpectedValue => "unexpected value found".toList
  | repeated => "an argument cannot be used multiple times".toList
  | unexpectedWord => "unexpected argument found".toList
  | missingCommand => "a subcommand is required but none was supplied".toList
  | missingTemplate => "a template is required but none was supplied".toList

/-- A part of the arguments. -/
inductive Item where
  /-- A switch, with its value if it takes one. -/
  | given (switch : Switch) (value : Text)
  | command (verb : Verb)
  | word (text : Text)
  | wrong (misuse : Misuse)
  deriving DecidableEq

/-- A switch with its value, if the value will do. -/
def Item.ofValue (switch : Switch) (value : Text) : Item :=
  if switch.takesPath && value.isEmpty then .wrong .missingValue else .given switch value

/-- A word: the command if there is none yet. -/
def Item.ofWord (verb? : Option Verb) (text : Text) : Item :=
  match verb? with
  | some _ => .word text
  | none =>
    match Verb.ofName? text with
    | some verb => .command verb
    | none => .wrong .unexpectedWord

/-- The switches of letters after one dash. -/
def letterItems (verb? : Option Verb) : Text → List Item
  | [] => []
  | c :: rest =>
    match (Switch.all verb?).find? fun s => s.letter? == some c with
    | some switch => .given switch [] :: letterItems verb? rest
    | none => [.wrong .unknownSwitch]

/-- Whether an argument is a switch or the end of the switches, and not a value. -/
def isDashed (arg : Text) : Bool := arg.head? = some '-' && arg ≠ ['-']

/-- A long switch by its name, with the value that is attached to it. -/
def cutLong (text : Text) : Text × Option Text :=
  match Text.splitAt? (· = '=') text with
  | some (name, value) => (name, some value)
  | none => (text, none)

/-- The parts of arguments. -/
def items (verb? : Option Verb) : List Text → List Item
  | [] => []
  | ('-' :: '-' :: []) :: rest =>
    rest.map fun text => if verb?.isSome then .word text else .wrong .unexpectedWord
  | ('-' :: '-' :: long) :: rest =>
    let (name, value?) := cutLong long
    match (Switch.all verb?).find? fun s => s.name == name with
    | none => [.wrong .unknownSwitch]
    | some switch =>
      match switch.takesValue, value?, rest with
      | false, none, rest => .given switch [] :: items verb? rest
      | false, some _, _ => [.wrong .unexpectedValue]
      | true, some value, rest => .ofValue switch value :: items verb? rest
      | true, none, [] => [.wrong .missingValue]
      | true, none, value :: rest =>
        if isDashed value then [.wrong .missingValue]
        else .ofValue switch value :: items verb? rest
  | arg :: rest =>
    if isDashed arg then letterItems verb? (arg.drop 1) ++ items verb? rest
    else
      match Item.ofWord verb? arg with
      | .command verb => .command verb :: items (some verb) rest
      | item => item :: items verb? rest

/-! ## Requests -/

/-- What a command is to do. -/
inductive Command where
  /-- Generate the files of the project. -/
  | generate (out? : Option Path) (locale? : Option Text) (json : Bool)
  /-- Render one template. -/
  | render (template : Path) (includes : List Path) (locale? : Option Text)
  deriving DecidableEq

/-- What arguments ask for. -/
structure Request where
  verbosity : Nat
  root : Path
  command : Command
  deriving DecidableEq

/-- Why arguments ask for no command. -/
inductive Refusal where
  | help
  | version
  | misuse (cause : Misuse)
  deriving DecidableEq

/-- What arguments have given so far. -/
structure Given where
  verb? : Option Verb
  /-- The switches before the command, or of the command. -/
  switches : List (Switch × Text)
  /-- The switches before the command, once it is known. -/
  earlier : List (Switch × Text)
  words : List Text

namespace Given

/-- Nothing is given. -/
def empty : Given := ⟨none, [], [], []⟩

/-- What is given with one more part. -/
def add (g : Given) : Item → Except Refusal Given
  | .given .help _ => .error .help
  | .given .version _ => .error .version
  | .given switch value =>
    if !switch.repeats && g.switches.any (·.1 = switch) then .error (.misuse .repeated)
    else .ok { g with switches := g.switches ++ [(switch, value)] }
  | .command verb => .ok ⟨some verb, [], g.switches, g.words⟩
  | .word text =>
    if g.verb? = some .render ∧ g.words.isEmpty then
      if text.isEmpty then .error (.misuse .missingValue) else .ok { g with words := [text] }
    else .error (.misuse .unexpectedWord)
  | .wrong misuse => .error (.misuse misuse)

/-- The values of a switch; those of the command hide earlier ones. -/
def values (g : Given) (switch : Switch) : List Text :=
  let own := (g.switches.filter (·.1 = switch)).map Prod.snd
  if own.isEmpty then (g.earlier.filter (·.1 = switch)).map Prod.snd else own

/-- The value of a switch. -/
def value? (g : Given) (switch : Switch) : Option Text := (g.values switch).head?

/-- The command that was given. -/
def command (g : Given) : Except Refusal Command :=
  match g.verb? with
  | none => .error (.misuse .missingCommand)
  | some .generate =>
    .ok (.generate ((g.value? .out).map (⟨Text.Utf8.encode ·⟩)) (g.value? .locale)
      (g.value? .json).isSome)
  | some .render =>
    match g.words with
    | [] => .error (.misuse .missingTemplate)
    | template :: _ =>
      .ok (.render ⟨template⟩ ((g.values .includes).map (⟨Text.Utf8.encode ·⟩)) (g.value? .locale))

end Given

/-- What arguments ask for. -/
def parse (args : List Text) : Except Refusal Request := do
  let g ← (items none args).foldlM Given.add Given.empty
  return ⟨(g.values .verbose).length, ⟨(g.value? .root).getD ['.']⟩, ← g.command⟩

end Stencil.CommandLine
