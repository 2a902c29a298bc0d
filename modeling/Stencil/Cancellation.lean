/-
  Requests to stop.

  * a `Flag` is looked at from time to time; another party may set it between
    two looks, and once set it stays set.  It is given by the number of looks
    that still find it unset;
  * a `Board` holds flags that several parties share: copies of a flag are set
    together.
-/

namespace Stencil.Cancellation

/-! ## One flag, seen by the party that looks at it -/

/-- A flag, by the number of looks that will find it unset; `none` if it is
    never set. -/
structure Flag where
  quiet : Option Nat
  deriving DecidableEq, Inhabited

namespace Flag

/-- A flag that is never set. -/
def never : Flag := ⟨none⟩

/-- A flag that is set. -/
def set : Flag := ⟨some 0⟩

/-- Whether a look now finds the flag set. -/
def isSet (f : Flag) : Bool := f.quiet = some 0

/-- The flag after a look. -/
def afterLook (f : Flag) : Flag := ⟨f.quiet.map (· - 1)⟩

end Flag

/-! ## Shared flags -/

/-- Flags and the signals behind them; copies of a flag have one signal. -/
structure Board where
  /-- The signal of each flag. -/
  flags : List Nat
  /-- Whether each signal is set. -/
  signals : List Bool

namespace Board

/-- What happens to the flags of a board. -/
inductive Step where
  /-- A new flag, not set. -/
  | create
  /-- A copy of the flag at an index. -/
  | copy (index : Nat)
  /-- The flag at an index is set. -/
  | cancel (index : Nat)

/-- A board without flags. -/
def empty : Board := ⟨[], []⟩

/-- The signal of the flag at an index. -/
def signal (b : Board) (index : Nat) : Nat := (b.flags[index]?).getD 0

/-- The board after a step. -/
def apply (b : Board) : Step → Board
  | .create => ⟨b.flags ++ [b.signals.length], b.signals ++ [false]⟩
  | .copy index => ⟨b.flags ++ [b.signal index], b.signals⟩
  | .cancel index => ⟨b.flags, b.signals.set (b.signal index) true⟩

/-- Which flags are set. -/
def view (b : Board) : List Bool := b.flags.map fun s => (b.signals[s]?).getD false

/-- The views after each of the steps. -/
def views (b : Board) : List Step → List (List Bool)
  | [] => []
  | s :: rest => (b.apply s).view :: views (b.apply s) rest

end Board

end Stencil.Cancellation
