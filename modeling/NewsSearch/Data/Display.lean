import NewsSearch.Data.Basic

/-!
Values as messages show them.

`shown` writes a value so that its parts can be told apart: texts in quotes, lists in square
brackets, tuples in parentheses, mappings in braces.  `plain` writes a text as it is and everything
else as `shown` does, days and moments apart.
-/

namespace NewsSearch.Data

mutual

/-- The value with its parts told apart. -/
def shown : Data → String
  | scalar s => s.shown
  | list items => "[" ++ ", ".intercalate (shownItems items) ++ "]"
  | tuple items => Scalar.parenthesized (shownItems items)
  | map entries => "\x7b" ++ ", ".intercalate (shownEntries entries) ++ "\x7d"

/-- Each item as shown. -/
def shownItems : List Data → List String
  | [] => []
  | item :: rest => shown item :: shownItems rest

/-- Each entry as shown: key, colon, value. -/
def shownEntries : List (Scalar × Data) → List String
  | [] => []
  | (k, v) :: rest => (k.shown ++ ": " ++ shown v) :: shownEntries rest

end

/-- The value as text of its own. -/
def plain : Data → String
  | scalar s => s.plain
  | d => d.shown

mutual

/-- The value as one scalar.  A tuple becomes one of scalars; a list or a mapping is kept by its
    type and by how it is shown. -/
def whole : Data → Scalar
  | scalar s => s
  | tuple items => .tuple (wholeItems items)
  | list items => .other "list" (shown (list items))
  | map entries => .other "dict" (shown (map entries))

/-- Each item as one scalar. -/
def wholeItems : List Data → List Scalar
  | [] => []
  | item :: rest => whole item :: wholeItems rest

end

example : shown (.list [.text "a", .int 1]) = "['a', 1]" := by decide +kernel
example : shown (.tuple [.null]) = "(None,)" := by decide +kernel
example : shown (.map [(.text "k", .bool false)]) = "\x7b'k': False\x7d" := by decide +kernel

end NewsSearch.Data
