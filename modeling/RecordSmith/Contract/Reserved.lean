import RecordSmith.Text.Basic

/-!
# Names that C# members may not have

The keywords of the language, matched with their case, and the members that every record declares
already.
-/

namespace RecordSmith.Contract

/-- The reserved keywords. -/
def keywords : List Text :=
  (["abstract", "as", "base", "bool", "break", "byte", "case", "catch", "char", "checked", "class",
    "const", "continue", "decimal", "default", "delegate", "do", "double", "else", "enum", "event",
    "explicit", "extern", "false", "finally", "fixed", "float", "for", "foreach", "goto", "if",
    "implicit", "in", "int", "interface", "internal", "is", "lock", "long", "namespace", "new",
    "null", "object", "operator", "out", "override", "params", "private", "protected", "public",
    "readonly", "ref", "return", "sbyte", "sealed", "short", "sizeof", "stackalloc", "static",
    "string", "struct", "switch", "this", "throw", "true", "try", "typeof", "uint", "ulong",
    "unchecked", "unsafe", "ushort", "using", "virtual", "void", "volatile",
    "while"] : List String).map Text.ofString

/-- The members of every record. -/
def recordMembers : List Text :=
  ["EqualityContract", "Equals", "GetHashCode", "ToString", "Deconstruct", "PrintMembers"]

end RecordSmith.Contract
