/-
Colours and weights for a terminal.

A style is switched on after everything else is switched off, so that one style
can follow another directly.  On a terminal without colours nothing is written.
-/

import ChangeScript.Text.Basic

set_option autoImplicit false

namespace ChangeScript

inductive Style where
  | alarm
  | strong
  | border
  | bad
  | good
deriving DecidableEq, Repr

namespace Style

def reset : Text := "\x1b[0m".toList

def sequence : Style → Text
  | .alarm => "\x1b[1m\x1b[38;5;9m".toList
  | .strong => "\x1b[1m".toList
  | .border => "\x1b[36m".toList
  | .bad => "\x1b[31m".toList
  | .good => "\x1b[32m".toList

def on (coloured : Bool) (style : Style) : Text :=
  if coloured then reset ++ style.sequence else []

def off (coloured : Bool) : Text := if coloured then reset else []

def paint (coloured : Bool) (style : Style) (text : Text) : Text :=
  style.on coloured ++ text ++ off coloured

end Style

end ChangeScript
