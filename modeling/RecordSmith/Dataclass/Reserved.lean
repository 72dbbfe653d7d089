import RecordSmith.Text.Basic

/-!
# Names that Python members may not have

The keywords of the language, the soft ones included, and the names that the body of a generated
class looks up: common builtins and what the module imports.
-/

namespace RecordSmith.Dataclass

/-- The reserved and soft keywords. -/
def keywords : List Text :=
  (["False", "None", "True", "and", "as", "assert", "async", "await", "break", "class", "continue",
    "def", "del", "elif", "else", "except", "finally", "for", "from", "global", "if", "import",
    "in", "is", "lambda", "nonlocal", "not", "or", "pass", "raise", "return", "try", "while",
    "with", "yield", "_", "case", "match"] : List String).map Text.ofString

/-- Builtin types and functions, and the names that every generated module imports. -/
def builtinNames : List Text :=
  (["int", "float", "str", "bool", "list", "dict", "set", "tuple", "bytes", "object", "type",
    "property", "staticmethod", "classmethod", "super", "len", "print", "id", "hash", "repr",
    "format", "iter", "next", "dataclass", "field", "ClassVar"] : List String).map Text.ofString

end RecordSmith.Dataclass
