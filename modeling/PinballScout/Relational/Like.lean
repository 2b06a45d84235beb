/-!
# Pattern matching with `LIKE`

In a pattern, `%` matches any run of characters (the empty one too), `_` matches exactly one
character, the escape character makes the character after it literal, and any other character
matches itself with ASCII letters in either case. A pattern that ends in the escape character
matches nothing. Texts are read up to their first NUL character.
-/

namespace PinballScout

namespace Like

/-- Whether two characters match: equal, or the same ASCII letter in either case. -/
def sameLetter (a b : Char) : Bool := a == b || (a.toLower == b.toLower && a.toNat < 128 && b.toNat < 128)

/-- Whether a text matches a pattern, with `escape` as the escape character. -/
def accepts (escape : Char) : List Char → List Char → Bool
  | [], text => text.isEmpty
  | p :: rest, text =>
    if p == '%' then (List.range (text.length + 1)).any fun k => accepts escape rest (text.drop k)
    else if p == escape then
      match rest, text with
      | q :: rest', t :: text' => sameLetter q t && accepts escape rest' text'
      | _, _ => false
    else
      match text with
      | t :: text' => (p == '_' || sameLetter p t) && accepts escape rest text'
      | [] => false

/-- The characters of a text up to its first NUL. -/
def upToNul (s : String) : List Char := s.toList.takeWhile (· != '\x00')

end Like

/-- Whether `value LIKE pattern ESCAPE escape` holds. -/
def likeMatch (value pattern : String) (escape : Char) : Bool :=
  Like.accepts escape (Like.upToNul pattern) (Like.upToNul value)

end PinballScout
