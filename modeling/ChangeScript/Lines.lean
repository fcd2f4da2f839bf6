/-
The lines of a text.

A carriage return followed by a line feed, a carriage return alone and a line
feed alone all end a line.  A text has one line more than it has line ends, so
the empty text is one empty line.  Lines are given as texts, and as the spans
of bytes that they take up.
-/

import ChangeScript.Text.Basic

set_option autoImplicit false

namespace ChangeScript

open Text

def endsLine (c : Char) : Bool := c = '\r' || c = '\n'

def linesOf : Text → List Text
  | [] => [[]]
  | '\r' :: '\n' :: rest => [] :: linesOf rest
  | c :: rest => if endsLine c then [] :: linesOf rest else (linesOf rest).modifyHead (List.cons c)

structure Span where
  start : Nat
  stop : Nat
deriving DecidableEq, Repr

def Span.slice (span : Span) (text : Text) : Text :=
  takeBytes (span.stop - span.start) (dropBytes span.start text)

/-- Spans of the lines of a text that continues, at byte `position`, a line
begun at byte `start`. -/
def lineSpansFrom (start position : Nat) : Text → List Span
  | [] => [⟨start, position⟩]
  | '\r' :: '\n' :: rest =>
      ⟨start, position⟩ :: lineSpansFrom (position + 2) (position + 2) rest
  | c :: rest =>
      if endsLine c then
        ⟨start, position⟩ :: lineSpansFrom (position + 1) (position + 1) rest
      else
        lineSpansFrom start (position + c.utf8Size) rest

def lineSpans (text : Text) : List Span := lineSpansFrom 0 0 text

def lineSpanFrom (skipped start position : Nat) : Text → Span
  | [] => if skipped = 0 then ⟨start, position⟩ else ⟨position, position⟩
  | '\r' :: '\n' :: rest =>
      if skipped = 0 then ⟨start, position⟩
      else lineSpanFrom (skipped - 1) (position + 2) (position + 2) rest
  | c :: rest =>
      if endsLine c then
        if skipped = 0 then ⟨start, position⟩
        else lineSpanFrom (skipped - 1) (position + 1) (position + 1) rest
      else
        lineSpanFrom skipped start (position + c.utf8Size) rest

/-- The span of the line with the given number, counted from one, found without
reading past it.  A number past the last line gives the empty span at the end. -/
def lineSpan (text : Text) (number : Nat) : Span := lineSpanFrom (number - 1) 0 0 text

def lineCuts (text : Text) : List Text :=
  (lineSpans text).map fun span => takeBytes span.stop text

end ChangeScript
