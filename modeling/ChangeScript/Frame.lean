/-
Diagnostics drawn around the line that they label.

The line is shown with its number, and carets under the labelled characters.
Lines are told apart by line feeds alone here, so a line that a carriage return
ends is shown as a part of a longer one.
-/

import ChangeScript.Diagnostic
import ChangeScript.Paint
import ChangeScript.Text.Display

set_option autoImplicit false

namespace ChangeScript

open Text

namespace Frame

/-- The line around the start of a label.  `lead` stands before the label, and
`shown` is the whole line without line ends and null characters at its end. -/
structure Place where
  number : Nat
  lead : Text
  shown : Text
deriving DecidableEq, Repr

def isLineEnd (c : Char) : Bool := c = '\n' || c = '\r' || c = '\x00'

def placeOf (text : Text) (start : Nat) : Place :=
  let before := takeBytes start text
  let lead := (before.reverse.takeWhile fun c => c ≠ '\n').reverse
  { number := before.count '\n' + 1
    lead
    shown := trimEnd isLineEnd (lead ++ (dropBytes start text).takeWhile fun c => c ≠ '\n') }

structure Cell where
  glyph : Text
  columns : Nat
  start : Nat
  stop : Nat
deriving DecidableEq, Repr

def tabWidth : Nat := 4

def cellsFrom (start column : Nat) : Text → List Cell
  | [] => []
  | c :: rest =>
      let width := if c = '\t' then tabWidth - column % tabWidth else columns c
      let glyph := if c = '\t' then List.replicate width ' ' else [c]
      ⟨glyph, width, start, start + c.utf8Size⟩ ::
        cellsFrom (start + c.utf8Size) (column + width) rest

def lastCell (shown : Text) : Cell := ⟨[], 1, byteSize shown, byteSize shown + 1⟩

def isMarked (label : Span) (cell : Cell) : Bool :=
  max label.start cell.start < min label.stop cell.stop

def divide (label : Span) (cells : List Cell) : List Cell × List Cell × List Cell :=
  let before := cells.takeWhile fun cell => !isMarked label cell
  let rest := cells.dropWhile fun cell => !isMarked label cell
  (before, rest.takeWhile (isMarked label), rest.dropWhile (isMarked label))

def paintCells (coloured : Bool) (draw : Cell → Text) (cells : List Cell) : Text :=
  if cells = [] then [] else Style.bad.paint coloured (cells.flatMap draw)

def sourceText (coloured : Bool) (label : Span) (shown : Text) : Text :=
  let (before, marked, after) := divide label (cellsFrom 0 0 shown)
  before.flatMap Cell.glyph ++ paintCells coloured Cell.glyph marked ++ after.flatMap Cell.glyph

def caretText (coloured : Bool) (label : Span) (shown : Text) : Text :=
  let (before, marked, _) := divide label (cellsFrom 0 0 shown ++ [lastCell shown])
  (before.filter fun cell => cell.start < label.stop).flatMap
      (fun cell => List.replicate cell.columns ' ') ++
    paintCells coloured (fun cell => List.replicate cell.columns '^') marked

def draw (coloured : Bool) (name text : Text) (diagnostic : Diagnostic) : Text :=
  let span := diagnostic.label.span
  let place := placeOf text span.start
  let start := byteSize place.lead
  let label : Span := ⟨start, start + max (span.stop - span.start) 1⟩
  let number := ofNat place.number
  let gutter := List.replicate (number.length + 1) ' '
  let border := Style.border.paint coloured
  let bar := border "│".toList
  let message :=
    if diagnostic.label.message = [] then []
    else ' ' :: Style.bad.paint coloured diagnostic.label.message
  endFeeds
    ([Style.alarm.on coloured ++ "error".toList ++
        Style.strong.paint coloured (": ".toList ++ diagnostic.message),
      gutter ++ border "┌─".toList ++ ' ' :: name ++ ':' :: number ++ ':' ::
        ofNat (place.lead.length + 1),
      gutter ++ bar,
      border number ++ ' ' :: bar ++ ' ' :: sourceText coloured label place.shown,
      gutter ++ bar ++ ' ' :: caretText coloured label place.shown ++ message] ++
    (if diagnostic.notes = [] then [] else [gutter ++ bar]) ++
    diagnostic.notes.map (fun note => gutter ++ border ['='] ++ ' ' :: note) ++
    [[]])

end Frame

end ChangeScript
