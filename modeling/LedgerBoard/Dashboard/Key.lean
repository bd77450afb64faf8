import LedgerBoard.Dashboard.Basic

/-!
# Keys

What a key press asks for. A control that cannot be used ignores its key.
-/

namespace LedgerBoard

/-- A key. -/
inductive Key where
  | char (c : Char)
  | escape
  | enter
  | tab
  | backspace
  | up
  | null
  | function (number : Nat)
  deriving DecidableEq, Repr

/-- A key that is pressed while others are held. -/
structure KeyPress where
  key : Key
  control : Bool
  deriving DecidableEq, Repr

/-- What the user asks for. -/
inductive Action where
  | quit
  | connect
  | disconnect
  deriving DecidableEq, Repr

def KeyPress.quits (press : KeyPress) : Bool :=
  match press.key with
  | .char 'q' => true
  | .char 'c' => press.control
  | .escape => true
  | _ => false

def KeyPress.action? (press : KeyPress) (controls : Controls) : Option Action :=
  if press.quits then some .quit
  else
    match press.key with
    | .char 'c' => if controls.connect then some .connect else none
    | .char 'd' => if controls.disconnect then some .disconnect else none
    | _ => none

end LedgerBoard
