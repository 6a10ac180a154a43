import MessageCatalog.Text.Basic

/-!
# Tokens of documents

A document is a list of tokens. Collections that indentation delimits have tokens of their own where
they start and end, so that what reads tokens need not look at columns.
-/

namespace MessageCatalog
namespace Yaml

/-- A token of a document. -/
inductive Token where
  /-- The version that a document is written in; only its major part counts. -/
  | version (major : Nat)
  /-- A handle of tags and what it stands for. -/
  | handle (name expansion : Text)
  /-- A directive of no known kind. -/
  | otherDirective
  | documentStart
  | documentEnd
  | streamEnd
  | blockSequenceStart
  | blockMappingStart
  | blockEnd
  | flowSequenceStart
  | flowSequenceEnd
  | flowMappingStart
  | flowMappingEnd
  /-- What separates the parts of a collection in brackets. -/
  | flowEntry
  /-- What introduces an item of a sequence by indentation. -/
  | blockEntry
  | key
  | value
  | reference (anchor : Text)
  | anchor (name : Text)
  /-- A tag with its handle, if it is not given in full. -/
  | tag (handle : Option Text) (suffix : Text)
  /-- A scalar; a plain one stands without quotes and on lines of its collection. -/
  | scalar (isPlain : Bool) (text : Text)
deriving DecidableEq, Repr

namespace Token

/-- The token is a directive. -/
def isDirective : Token → Bool
  | .version _ => true
  | .handle .. => true
  | .otherDirective => true
  | _ => false

end Token

end Yaml
end MessageCatalog
