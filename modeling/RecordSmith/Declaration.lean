import RecordSmith.Text.Basic

/-!
# Declarations of generated types

What a generated source file declares, before it is laid out in a language: one type and its
members in schema order.  Identifiers are those of the generated code, wire names those of the
schema.
-/

namespace RecordSmith

/-- A member of a generated type. -/
structure MemberDeclaration where
  name : Text
  wireName : Text
  /-- The type in the generated code, marked as optional already if the member is nullable. -/
  typeName : Text
  nullable : Bool := false
  defaultLiteral : Option Text := none
  deriving Repr, DecidableEq

/-- A member without a default has to be given when an instance is made. -/
def MemberDeclaration.required (member : MemberDeclaration) : Bool := member.defaultLiteral.isNone

/-- A generated type. -/
structure TypeDeclaration where
  space : Text
  typeName : Text
  wireName : Text
  wireSpace : Text
  members : List MemberDeclaration := []
  doc : Option Text := none
  deriving Repr, DecidableEq

/-- The name in the schema behind its namespace. -/
def TypeDeclaration.wireFullName (type : TypeDeclaration) : Text :=
  if type.wireSpace.isEmpty then type.wireName else type.wireSpace ++ "." ++ type.wireName

/-- The documentation, if there is any to show. -/
def TypeDeclaration.shownDoc? (type : TypeDeclaration) : Option Text :=
  type.doc.filter fun doc => !doc.isEmpty

end RecordSmith
