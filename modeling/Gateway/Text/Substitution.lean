/-! Replacing every occurrence of a text, from left to right. -/
namespace Gateway.Text

/-- `s` with `value` for each occurrence of `name`, of those that overlap the first. `fuel` bounds the
characters left; an empty name occurs nowhere. -/
def replaceFrom (name value : List Char) : Nat → List Char → List Char
  | 0, s => s
  | _, [] => []
  | fuel + 1, c :: r =>
    match if name = [] then none else name.isPrefixOf? (c :: r) with
    | some rest => value ++ replaceFrom name value fuel rest
    | none => c :: replaceFrom name value fuel r

/-- `s` with `value` for each occurrence of `name`. -/
def replaceAll (name value s : List Char) : List Char := replaceFrom name value s.length s

end Gateway.Text
