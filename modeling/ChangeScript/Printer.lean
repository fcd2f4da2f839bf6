/-
Operations written as a change script.

Empty lines are put before an opening marker until the operation stands on its
recorded line, whenever the lines before it leave room.  An empty buffer gives
no line.
-/

import ChangeScript.Marker
import ChangeScript.Operation

set_option autoImplicit false

namespace ChangeScript

open Text

namespace Marker

def write (delimiters : Delimiters) (name : Text) (attributes : List Attribute) : Text :=
  delimiters.opening ++ name ++ Attribute.writeList attributes ++ delimiters.closing

def plain (delimiters : Delimiters) (keyword : Keyword) : Text :=
  write delimiters keyword.name []

end Marker

namespace Operation

def bufferLines (buffer : Text) : List Text := if buffer = [] then [] else buffer.splitOn '\n'

/-- Empty lines and an opening marker, behind `used` lines. -/
def openingLines (delimiters : Delimiters) (used : Nat) (kind : Kind) (header : Header) :
    List Text :=
  List.replicate (header.line - 1 - used) [] ++
    [Marker.write delimiters kind.name header.attributes]

def searchLines (delimiters : Delimiters) (pattern : Text) (upTo : Option Text)
    (replacement : Text) : List Text :=
  bufferLines pattern ++
    (match upTo with
    | none => []
    | some last => Marker.plain delimiters .upTo :: bufferLines last) ++
    Marker.plain delimiters .replace :: bufferLines replacement

mutual
def lines (delimiters : Delimiters) (used : Nat) : Operation → List Text
  | .write header content =>
      openingLines delimiters used .write header ++ bufferLines content ++
        [Marker.plain delimiters .close]
  | .run header content =>
      openingLines delimiters used .run header ++ bufferLines content ++
        [Marker.plain delimiters .close]
  | .search header pattern upTo replacement =>
      openingLines delimiters used .search header ++
        searchLines delimiters pattern upTo replacement ++ [Marker.plain delimiters .close]
  | .tasks header operations =>
      let opening := openingLines delimiters used .tasks header
      opening ++ linesAll delimiters (used + opening.length) operations ++
        [Marker.plain delimiters .close]

def linesAll (delimiters : Delimiters) (used : Nat) : List Operation → List Text
  | [] => []
  | first :: rest =>
      let lines := first.lines delimiters used
      lines ++ linesAll delimiters (used + lines.length) rest
end

end Operation

def print (delimiters : Delimiters) (operations : List Operation) : Text :=
  joinFeeds (Operation.linesAll delimiters 0 operations)

end ChangeScript
