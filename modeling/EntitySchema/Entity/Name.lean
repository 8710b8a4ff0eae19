import EntitySchema.Text.Plural
import EntitySchema.Text.SnakeCase

namespace EntitySchema

/-- The table of an entity: `BlogPost` has the table `blog_posts`. -/
def tableName (entity : String) : String := Text.snakeCase (Text.plural entity)

/-- The enum of a field: `Post` and `statuses` give `PostStatus`. -/
def enumName (entity field : String) : String := entity ++ Text.upperFirst (Text.singular field)

/-- The type of one element of a field: `Post` and `attachments` give `PostAttachmentType`. -/
def itemTypeName (entity field : String) : String := enumName entity field ++ "Type"

/-- The schema constant of a field: `Post` and `tags` give `PostTagsSchema`. -/
def schemaName (entity field : String) : String := entity ++ Text.upperFirst field ++ "Schema"

/-- The column that holds the key of the related row: the given name if there is one, else the name
of the field with `Id` at its end. -/
def foreignKeyName (field : String) (given : Option String) : String :=
  match given with
  | some name => if name.isEmpty then derived else name
  | none => derived
where
  derived : String := if Text.endsInOne field ["Id"] then field else field ++ "Id"

/-- The method that looks up what a polymorphic field points to: `target` gives `getTarget`. -/
def accessorName (field : String) : String := "get" ++ Text.upperFirst field

end EntitySchema
