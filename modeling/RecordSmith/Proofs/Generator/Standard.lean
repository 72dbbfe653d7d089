import RecordSmith.Registry

/-!
# Standard generators

The generators of the built-in languages under their default settings.
-/

namespace RecordSmith.Generator

/-- The generator of a language with its default settings. -/
def standard : Target → Generator
  | .csharp =>
    { settings :=
        { languageOptions :=
            .object [("nullable_context", .boolean true), ("type_keyword", .text "record")] }
      options := .contract {} }
  | .python =>
    { settings :=
        { fieldCase := .text NamingCase.snake.name
          namespaceCase := .text NamingCase.snake.name
          languageOptions :=
            .object [("dataclass_slots", .boolean true), ("metadata_key", .text "avro_name")] }
      options := .dataclass {} }

@[simp]
theorem standard_target (target : Target) : (standard target).target = target := by
  cases target with
  | csharp => rfl
  | python => rfl

/-- The registry makes the standard generators when nothing is overridden. -/
theorem create_standard (files : FileTree) (target : Target) :
    Registry.builtin.create Catalog.builtin files target.name = .ok (standard target) := by
  cases target with
  | csharp => rfl
  | python => rfl

end RecordSmith.Generator
