import MessageCatalog.Markup.Scan

/-!
# Document type definitions

A document can define entities and default attributes before its root element. The first definition
of an entity or of an attribute counts. Definitions outside the document are never read; a document
that refers to some may use entities that are not defined in it, and those of its own definitions
that follow a reference to outside ones do not count unless it stands alone.
-/

namespace MessageCatalog
namespace Markup

/-- What an entity stands for. -/
inductive Entity where
  /-- A text of the document. -/
  | text (replacement : Text)
  /-- Something outside the document. -/
  | outside
deriving DecidableEq, Repr

/-- How an attribute of an element is read. -/
structure AttributeRule where
  element : Text
  name : Text
  /-- The value is a list of tokens, so that its white space is collapsed. -/
  tokens : Bool
  default : Option Text
deriving DecidableEq, Repr

/-- The definitions of a document. -/
structure Definitions where
  entities : List (Text × Entity)
  attributes : List AttributeRule
  /-- The document says that it needs no definitions from outside. -/
  standalone : Bool
  /-- There are definitions that are not read. -/
  incomplete : Bool
  /-- The definitions that follow do not count. -/
  ignored : Bool
deriving DecidableEq, Repr

namespace Definitions

/-- The definitions before any is read. -/
def initial (standalone : Bool) : Definitions :=
  ⟨[], [], standalone, false, false⟩

/-- An entity that is used must be defined. -/
def closed (d : Definitions) : Bool :=
  d.standalone || !d.incomplete

/-- The first rule for an attribute of an element. -/
def rule? (d : Definitions) (element name : Text) : Option AttributeRule :=
  d.attributes.find? fun rule => rule.element = element && rule.name = name

/-- The value of an attribute: references are replaced, white space becomes spaces, and a less-than
sign is refused. The replacement text of an entity is expanded by `nested`; `fuel` bounds the
length. -/
def expandWith (d : Definitions) (nested : Text → Option Text) : (fuel : Nat) → Text → Option Text
  | 0, _ => none
  | _ + 1, [] => some []
  | fuel + 1, c :: rest =>
      if c = '<' then none
      else if c = '&' then do
        let (reference, rest) ← Scan.reference.run rest
        let value ←
          match reference with
          | .character c => some [c]
          | .entity name =>
              match predefined? name with
              | some c => some [c]
              | none =>
                  match d.entities.lookup name with
                  | some (.text replacement) => nested replacement
                  | some .outside => none
                  | none => if d.closed then none else some []
        (value ++ ·) <$> expandWith d nested fuel rest
      else ((if isSpace c then ' ' else c) :: ·) <$> expandWith d nested fuel rest

/-- The value of an attribute with entities nested at most `depth` deep. -/
def expand (d : Definitions) : (depth : Nat) → Text → Option Text
  | 0, t => d.expandWith (fun _ => none) (t.length + 1) t
  | depth + 1, t => d.expandWith (expand d depth) (t.length + 1) t

/-- The text with single spaces between its tokens. -/
def collapse (t : Text) : Text :=
  Text.join [' '] ((t.splitOn ' ').filter (· ≠ []))

/-- The value of an attribute whose literal is given. -/
def value (d : Definitions) (tokens : Bool) (literal : Text) : Option Text := do
  let expanded ← d.expand d.entities.length literal
  return if tokens then collapse expanded else expanded

end Definitions

namespace Scan

/-- The replacement text of an entity: character references are replaced, entity references stay,
and a percent sign is refused. -/
def replacement : Nat → Text → Option Text
  | 0, _ => none
  | _ + 1, [] => some []
  | fuel + 1, c :: rest =>
      if c = '%' then none
      else if c = '&' then do
        let (reference, rest) ← Scan.reference.run rest
        let kept :=
          match reference with
          | .character c => [c]
          | .entity name => '&' :: name ++ [';']
        (kept ++ ·) <$> replacement fuel rest
      else (c :: ·) <$> replacement fuel rest

/-- A character that a public identifier may contain. -/
def isPublic (c : Char) : Bool :=
  c.isAlphanum || c = ' ' || c = '\n' || "-'()+,./:=?;!*#@$_%".toList.contains c

/-- Takes a public identifier. -/
def publicId : Scan Unit := do
  unless (← quoted).all isPublic do failure

/-- Takes where something outside the document is found, if that comes next. -/
def outside : Scan Bool := do
  if ← accepts "SYSTEM" then
    needSpaces
    let _ ← quoted
    return true
  else if ← accepts "PUBLIC" then
    needSpaces
    publicId
    needSpaces
    let _ ← quoted
    return true
  else return false

/-- Takes the rest of the definition of an entity behind its keyword. -/
def entityDefinition (d : Definitions) : Scan Definitions := do
  needSpaces
  let parameter ← accepts ['%']
  if parameter then needSpaces
  let entity ← name
  needSpaces
  let value ←
    if ← outside then
      let spaced ← spaces
      if spaced && !parameter then
        if ← accepts "NDATA" then
          needSpaces
          let _ ← name
      pure Entity.outside
    else
      let literal ← quoted
      if d.ignored then pure (Entity.text [])
      else
        let some text := replacement (literal.length + 1) literal | failure
        pure (Entity.text text)
  let _ ← spaces
  expect ['>']
  if parameter || d.ignored then return d
  else return { d with entities := d.entities ++ [(entity, value)] }

/-- Takes alternatives between parentheses behind the opening one. -/
def alternatives (item : Scan Text) : Nat → Scan Unit
  | 0 => failure
  | fuel + 1 => do
      let _ ← spaces
      let _ ← item
      let _ ← spaces
      if ← accepts ['|'] then alternatives item fuel else expect [')']

/-- Takes the type of an attribute, and tells whether its values are tokens. -/
def attributeType : Scan Bool := do
  if ← accepts ['('] then
    alternatives nameToken (← rest).length
    return true
  else
    let type ← span Char.isAlphanum
    if type = "CDATA".toList then return false
    else if type = "NOTATION".toList then
      needSpaces
      expect ['(']
      alternatives name (← rest).length
      return true
    else if (["ID", "IDREF", "IDREFS", "ENTITY", "ENTITIES", "NMTOKEN", "NMTOKENS"].map
        String.toList).contains type then return true
    else failure

/-- Takes the rules for the attributes of an element behind its name. -/
def attributeRules (element : Text) : Nat → Definitions → Scan Definitions
  | 0, _ => failure
  | fuel + 1, d => do
      let spaced ← spaces
      if ← accepts ['>'] then return d
      unless spaced do failure
      let own ← qualifiedName
      needSpaces
      let tokens ← attributeType
      needSpaces
      let default ←
        if ← accepts "#REQUIRED" then pure none
        else if ← accepts "#IMPLIED" then pure none
        else
          if ← accepts "#FIXED" then needSpaces
          let literal ← quoted
          if d.ignored then pure none
          else
            let some value := d.value tokens literal | failure
            pure (some value)
      if d.ignored then attributeRules element fuel d
      else
        attributeRules element fuel
          { d with attributes := d.attributes ++ [⟨element, own, tokens, default⟩] }

/-- Takes the mark that says how often a part of an element may occur. -/
def occurrence : Scan Unit := do
  unless ← accepts ['?'] do
    unless ← accepts ['*'] do
      let _ ← accepts ['+']

/-- Takes the parts of a content model behind an opening parenthesis. All parts are separated by the
same character, which is known behind the first one. -/
def contentModel : Nat → Option Char → Scan Unit
  | 0, _ => failure
  | fuel + 1, separator => do
      let _ ← spaces
      if ← accepts ['('] then contentModel fuel none
      else
        let _ ← qualifiedName
        occurrence
      let _ ← spaces
      if ← accepts [')'] then occurrence
      else
        let next := if ← accepts ['|'] then '|' else ','
        if next = ',' then expect [',']
        if separator.any (· ≠ next) then failure
        contentModel fuel (some next)

/-- Takes the names that may stand between the text of an element. -/
def mixedModel : Nat → Bool → Scan Unit
  | 0, _ => failure
  | fuel + 1, named => do
      let _ ← spaces
      if ← accepts ['|'] then
        let _ ← spaces
        let _ ← qualifiedName
        mixedModel fuel true
      else
        expect [')']
        if named then expect ['*']
        else
          let _ ← accepts ['*']

/-- Takes the rest of the definition of an element behind its keyword. -/
def elementDefinition : Scan Unit := do
  needSpaces
  let _ ← qualifiedName
  needSpaces
  if ← accepts ['('] then
    let _ ← spaces
    if ← accepts "#PCDATA" then mixedModel (← rest).length false
    else contentModel (← rest).length none
  else
    unless ← accepts "EMPTY" do expect "ANY"
  let _ ← spaces
  expect ['>']

/-- Takes the rest of the definition of a notation behind its keyword. -/
def formatDefinition : Scan Unit := do
  needSpaces
  let _ ← name
  needSpaces
  if ← accepts "SYSTEM" then
    needSpaces
    let _ ← quoted
  else
    expect "PUBLIC"
    needSpaces
    publicId
    let spaced ← spaces
    let next ← rest
    if spaced && (next.startsWith ['"'] || next.startsWith ['\'']) then
      let _ ← quoted
  let _ ← spaces
  expect ['>']

/-- Takes the definitions inside a document up to the closing bracket. -/
def definitions : Nat → Definitions → Scan Definitions
  | 0, _ => failure
  | fuel + 1, d => do
      let _ ← spaces
      if ← accepts [']'] then return d
      else if ← accepts ['%'] then
        let _ ← name
        expect [';']
        definitions fuel { d with incomplete := true, ignored := !d.standalone }
      else if ← accepts "<!--" then
        let _ ← comment
        definitions fuel d
      else if ← accepts "<?" then
        instruction
        definitions fuel d
      else if ← accepts "<!ENTITY" then definitions fuel (← entityDefinition d)
      else if ← accepts "<!ATTLIST" then
        needSpaces
        let element ← qualifiedName
        definitions fuel (← attributeRules element (← rest).length d)
      else if ← accepts "<!ELEMENT" then
        elementDefinition
        definitions fuel d
      else
        expect "<!NOTATION"
        formatDefinition
        definitions fuel d

/-- Takes the rest of a document type definition behind its keyword. -/
def documentType (d : Definitions) : Scan Definitions := do
  needSpaces
  let _ ← qualifiedName
  let spaced ← spaces
  let elsewhere ← if spaced then outside else pure false
  let d := if elsewhere then { d with incomplete := true } else d
  let _ ← spaces
  let d ← if ← accepts ['['] then definitions (← rest).length d else pure d
  let _ ← spaces
  expect ['>']
  return d

end Scan
end Markup
end MessageCatalog
