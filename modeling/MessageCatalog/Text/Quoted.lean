import MessageCatalog.Text.Basic

/-!
# Quoted texts

Three ways to write a text inside generated output: a string literal between double quotes, the
value of a properties entry, and character data of a markup document. The first two share the rule
for line breaks: a line feed together with a carriage return right after it is one break.
-/

namespace MessageCatalog
namespace Text

/-- Escapes character by character, a line feed and the carriage return after it as one. -/
def escapeWith (escape : Char → Text) : Text → Text
  | [] => []
  | '\n' :: '\r' :: t => '\\' :: 'n' :: escapeWith escape t
  | c :: t => escape c ++ escapeWith escape t

/-- How a character is written inside a string literal. -/
def literalEscape : Char → Text
  | '\\' => ['\\', '\\']
  | '"' => ['\\', '"']
  | '\n' => ['\\', 'n']
  | '\r' => ['\\', 'r']
  | c => [c]

/-- How a character is written inside the value of a properties entry. -/
def entryEscape : Char → Text
  | '\\' => ['\\', '\\']
  | '\n' => ['\\', 'n']
  | '\r' => ['\\', 'r']
  | '\t' => ['\\', 't']
  | c => [c]

/-- How a character is written as character data. -/
def markupEscape : Char → Text
  | '&' => "&amp;"
  | '<' => "&lt;"
  | '>' => "&gt;"
  | '"' => "&quot;"
  | '\'' => "&#39;"
  | c => [c]

/-- The string literal that denotes the text. -/
def literal (t : Text) : Text :=
  '"' :: escapeWith literalEscape t ++ ['"']

/-- The string literal of a text, or the null literal for no text. -/
def literalOrNull : Option Text → Text
  | none => "null"
  | some t => literal t

/-- The right-hand side of the properties entry whose value is the text. -/
def entryValue (t : Text) : Text :=
  escapeWith entryEscape t

/-- The character data that denotes the text. -/
def markup (t : Text) : Text :=
  t.flatMap markupEscape

end Text
end MessageCatalog
