/-
Texts as lists of characters.

A text is measured in UTF-8 bytes, cut at byte offsets that lie between two
characters, searched for another text, and joined with others by line feeds.
-/

set_option autoImplicit false

namespace ChangeScript

abbrev Text := List Char

namespace Text

def byteSize : Text → Nat
  | [] => 0
  | c :: rest => c.utf8Size + byteSize rest

/-- The longest beginning of a text that fits into the given number of bytes. -/
def takeBytes : Nat → Text → Text
  | _, [] => []
  | bytes, c :: rest =>
      if c.utf8Size ≤ bytes then c :: takeBytes (bytes - c.utf8Size) rest else []

def dropBytes : Nat → Text → Text
  | _, [] => []
  | bytes, c :: rest =>
      if c.utf8Size ≤ bytes then dropBytes (bytes - c.utf8Size) rest else c :: rest

theorem takeBytes_append_dropBytes (bytes : Nat) (text : Text) :
    takeBytes bytes text ++ dropBytes bytes text = text := by
  induction text generalizing bytes with
  | nil => rfl
  | cons c rest ih =>
      by_cases fits : c.utf8Size ≤ bytes
      · rw [takeBytes, dropBytes, if_pos fits, if_pos fits, List.cons_append, ih]
      · rw [takeBytes, dropBytes, if_neg fits, if_neg fits, List.nil_append]

/-- What stands before and after the leftmost occurrence of `part`. -/
def splitAtFirst? (part : Text) : Text → Option (Text × Text)
  | [] => (part.isPrefixOf? []).map fun after => ([], after)
  | c :: rest =>
      match part.isPrefixOf? (c :: rest) with
      | some after => some ([], after)
      | none => (splitAtFirst? part rest).map fun found => (c :: found.1, found.2)

def holds (text part : Text) : Bool :=
  (splitAtFirst? part text).isSome

def trimEnd (drop : Char → Bool) (text : Text) : Text :=
  (text.reverse.dropWhile drop).reverse

def joinFeeds (lines : List Text) : Text := List.intercalate ['\n'] lines

def endFeeds (lines : List Text) : Text := lines.flatMap fun line => line ++ ['\n']

def inRanges (ranges : List (Nat × Nat)) (c : Char) : Bool :=
  ranges.any fun range => range.1 ≤ c.toNat && c.toNat ≤ range.2

def ofNat (number : Nat) : Text := Nat.toDigits 10 number

/-- Texts in the order of their characters' code points, which is the order of
their UTF-8 bytes. -/
def precedes : Text → Text → Bool
  | [], _ => true
  | _ :: _, [] => false
  | a :: left, b :: right => if a = b then precedes left right else a.toNat < b.toNat

end Text

end ChangeScript
