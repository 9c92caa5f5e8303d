import PegEngine.Unicode.Whitespace

/-!
# Listings

Alternatives are listed as they are in prose: one stands alone, two are joined
by a word, and of three or more all but the last are separated, the last
following the separator (without the blanks that end it) and the word.
-/

namespace PegEngine

namespace Listing

/-- A string without the whitespace that ends it. -/
def trimEnd (string : String) : String :=
  String.ofList
    (string.toList.reverse.dropWhile Unicode.whitespace.contains).reverse

/-- The listing of some items, with the separator between items and the word
before the last one. -/
def text (separator lastWord : String) : List String → String
  | [] => ""
  | [only] => only
  | [first, second] => first ++ " " ++ lastWord ++ " " ++ second
  | first :: second :: third :: later =>
    separator.intercalate (first :: second :: third :: later).dropLast ++
      trimEnd separator ++ " " ++ lastWord ++ " " ++
        (third :: later).getLast (List.cons_ne_nil third later)

end Listing

end PegEngine
