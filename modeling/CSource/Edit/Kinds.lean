import CSource.Declaration.Basic
import CSource.Edit.Basic
import CSource.Item.Build
import CSource.Item.SourceUnit

/-!
# What can be edited

For each kind of thing, what its comments, children and value are. New comment lines and
children go to the end of their list.
-/

namespace CSource

/-- The children of comments are their lines. -/
instance : Editable Comments Empty String Empty where
  edit
    | comments, .add line => comments.push line
    | comments, .addAll lines => lines.foldl Comments.push comments

/-- The value of a declaration is its initial one. -/
instance : Editable Declaration String Empty Expr where
  edit
    | declaration, .comment line => addComment declaration line
    | declaration, .addAll _ => declaration
    | declaration, .set value => declaration.initialize value

/-- The children of a struct body are its members. -/
instance : Editable StructBody Empty Declaration Empty where
  edit
    | body, .add field => body.addFields [field]
    | body, .addAll fields => body.addFields fields

/-- A typedef has comments only. -/
instance : Editable Typedef String Empty Empty where
  edit
    | typedef, .comment line => addComment typedef line
    | typedef, .addAll _ => typedef

/-- The children of a prototype are its parameters. -/
instance : Editable Prototype String Parameter Empty where
  edit
    | prototype, .comment line => addComment prototype line
    | prototype, .add parameter => prototype.addParameters [parameter]
    | prototype, .addAll parameters => prototype.addParameters parameters

/-- The children of a function are the items of its body. -/
instance : Editable Function String Item Empty where
  edit
    | function, .comment line => addComment function line
    | function, .add item => function.addItems [item]
    | function, .addAll items => function.addItems items

/-- The children of a block are the items of its body. -/
instance : Editable Block String Item Empty where
  edit
    | block, .comment line => addComment block line
    | block, .add item => block.addItems [item]
    | block, .addAll items => block.addItems items

/-- The children of an arm are the items of its body. -/
instance : Editable SwitchArm Empty Item Empty where
  edit
    | arm, .add item => arm.addItems [item]
    | arm, .addAll items => arm.addItems items

/-- The children of an enumeration are its values. -/
instance : Editable Enumeration String String Empty where
  edit
    | enumeration, .comment line => addComment enumeration line
    | enumeration, .add value => enumeration.addValues [value]
    | enumeration, .addAll values => enumeration.addValues values

/-- An inclusion has comments only. -/
instance : Editable Include String Empty Empty where
  edit
    | inclusion, .comment line => addComment inclusion line
    | inclusion, .addAll _ => inclusion

/-- The value of a macro definition is what the macro stands for. -/
instance : Editable Define Empty Empty String where
  edit
    | definition, .addAll _ => definition
    | definition, .set value => definition.withValue value

/-- The children of a guarded part are its items. -/
instance : Editable Guard Empty Item Empty where
  edit
    | guard, .add item => guard.addItems [item]
    | guard, .addAll items => guard.addItems items

/-- The children of a source unit are its items. -/
instance : Editable SourceUnit String Item Empty where
  edit
    | unit, .comment line => addComment unit line
    | unit, .add item => unit.addItems [item]
    | unit, .addAll items => unit.addItems items

end CSource
