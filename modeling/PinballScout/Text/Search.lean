import PinballScout.Text.Blank

/-!
# Searching listings

A search term is trimmed of blanks and folded to lower case; a term that is then empty
matches everything. A term matches an entity when it occurs in the lower-cased key or name.
Case folding maps the ASCII capitals only, so other letters match only as written.
-/

namespace PinballScout

namespace Text

/-- A text with its ASCII capitals in lower case. -/
def asciiLower (s : String) : String := String.ofList (s.toList.map Char.toLower)

/-- Whether `needle` occurs as a contiguous run in a list. -/
def occursIn (needle : List Char) : List Char → Bool
  | [] => needle.isEmpty
  | c :: rest => needle.isPrefixOf (c :: rest) || occursIn needle rest

/-- Whether `needle` occurs in `hay`. -/
def contains (hay needle : String) : Bool := occursIn needle.toList hay.toList

/-- The folded search term, or `none` when the search matches everything. -/
def searchTerm (search : Option String) : Option String :=
  match search.map trimBlank with
  | some t => if t.isEmpty then none else some (asciiLower t)
  | none => none

/-- Whether a folded term matches any of an entity's fields. -/
def matchesAny (term : Option String) (fields : List String) : Bool :=
  match term with
  | none => true
  | some t => fields.any fun f => contains (asciiLower f) t

end Text

end PinballScout
