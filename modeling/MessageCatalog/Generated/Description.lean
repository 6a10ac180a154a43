import MessageCatalog.Bundle.Basic
import MessageCatalog.Generated.Error
import MessageCatalog.Text.Filled
import MessageCatalog.Text.Quoted

/-!
# Described resources

A resource that is to be generated has a text, and its text has a signature. Its description holds
these, together with the comment that precedes the generated members.
-/

namespace MessageCatalog

/-- A resource with its text and the signature of its text. -/
structure Description where
  resource : Resource
  text : Text
  signature : Signature
deriving DecidableEq, Repr

/-- The width to which resource comments are filled. -/
def commentWidth : Int := 70

/-- The comment before a generated member: the comment of the resource, filled, then its text. -/
def commentLines (name text : Text) (comment : Option Text) (indent : Text) : List Text :=
  let star (line : Text) : Text := indent ++ " * " ++ line
  let remarks :=
    match comment with
    | none => []
    | some [] => []
    | some comment => (comment.filled commentWidth).map star ++ [indent ++ " *"]
  let summary : Text := "<code>" ++ name ++ "</code> is '<code>" ++ text.markup ++ "</code>'"
  [indent ++ "/**"] ++ remarks ++ (summary.filled (-1)).map star ++ [indent ++ " */"]

/-- The comment as one text, without a line feed at its end. -/
def commentBlock (name text : Text) (comment : Option Text) (indent : Text) : Text :=
  Text.join ['\n'] (commentLines name text comment indent)

/-- The text of a resource that must have one. -/
def Resource.requireText (r : Resource) (source : Path) : Except GenerationError Text :=
  match r.text with
  | some text => .ok text
  | none => .error ⟨.noText, some source, some r.name⟩

/-- The description of a resource, or the reason why it cannot be generated. -/
def Resource.describe (r : Resource) (source : Path) : Except RenderError Description :=
  match r.requireText source with
  | .error e => .error (.generation e)
  | .ok text =>
      match Template.signature text with
      | .ok signature => .ok ⟨r, text, signature⟩
      | .error (.tooManyParameters highest) =>
          .error (.generation ⟨.tooManyParameters highest, some source, some r.name⟩)
      | .error .numberTooLong => .error .numberTooLong

namespace Description

/-- The stem of the names of the generated members. -/
def stem (d : Description) : Text :=
  d.resource.stem

/-- The names of the parameters, separated by commas. -/
def argumentText (d : Description) : Text :=
  Text.join ", " d.signature.arguments

/-- The comment before the generated members. -/
def comment (d : Description) : Text :=
  commentBlock d.resource.name d.text d.resource.comment (List.replicate 4 ' ')

end Description

end MessageCatalog
