/-! Text cut at a separator and put together again, its ends stripped, its letters in lower case.
The characters of a text are its view: every operation is one on the list `String.toList`. -/
namespace ImageGateway.Text

/-- The pieces of `s` between separators, one more than there are separators. -/
def split (separator : Char) (s : String) : List String :=
  (s.toList.splitOn separator).map String.ofList

def join (separator : Char) (pieces : List String) : String :=
  (String.singleton separator).intercalate pieces

/-- The texts before and after the first separator. -/
def cut? (separator : Char) (s : String) : Option (String × String) :=
  match s.toList.span (· ≠ separator) with
  | (before, _ :: after) => some (String.ofList before, String.ofList after)
  | (_, []) => none

def after? (lead s : String) : Option String :=
  if lead.toList.isPrefixOf s.toList then
    some (String.ofList (s.toList.drop lead.toList.length))
  else none

/-- The second list has the first one as consecutive elements. -/
def occursIn (part : List Char) : List Char → Bool
  | [] => part.isEmpty
  | c :: rest => part.isPrefixOf (c :: rest) || occursIn part rest

def includes (part s : String) : Bool := occursIn part.toList s.toList

def strip (p : Char → Bool) (s : String) : String :=
  String.ofList ((s.toList.dropWhile p).reverse.dropWhile p).reverse

def stripEnd (p : Char → Bool) (s : String) : String :=
  String.ofList (s.toList.reverse.dropWhile p).reverse

/-- White space: the characters with the Unicode property `White_Space`. -/
def isBlank (c : Char) : Bool :=
  (9 ≤ c.toNat && c.toNat ≤ 13) || (0x2000 ≤ c.toNat && c.toNat ≤ 0x200A) ||
    [0x20, 0x85, 0xA0, 0x1680, 0x2028, 0x2029, 0x202F, 0x205F, 0x3000].contains c.toNat

def trim (s : String) : String := strip isBlank s

/-- Characters outside ASCII are their own lower case. -/
def lowerAscii (s : String) : String := String.ofList (s.toList.map Char.toLower)

theorem join_split (separator : Char) (s : String) : join separator (split separator s) = s := by
  apply String.toList_injective
  simp [join, split, String.toList_intercalate, Function.comp_def]

theorem split_join (separator : Char) (pieces : List String) (filled : pieces ≠ [])
    (clean : ∀ piece ∈ pieces, separator ∉ piece.toList) :
    split separator (join separator pieces) = pieces := by
  have whole : ([separator].intercalate (pieces.map String.toList)).splitOn separator =
      pieces.map String.toList :=
    List.splitOn_intercalate separator (by simpa using clean) (by simpa using filled)
  simp only [split, join, String.toList_intercalate, String.toList_singleton, whole, List.map_map]
  simp [Function.comp_def]

end ImageGateway.Text
