import MessageCatalog.Text.Digit

/-!
# Signatures of message templates

A message template refers to its arguments by placeholders such as `{0}` or `{1,number}`. Its
signature lists the kind of each argument, up to the highest index that occurs. The reading is
textual: the kind of argument `n` is read behind the last occurrence of `{n`, so that `{1` is also
found at the start of `{10`.
-/

namespace MessageCatalog

/-- What kind of value an argument is. -/
inductive ParameterKind where
  | string
  | number
  | date
  | time
  /-- The template does not say, or not precisely. -/
  | unknown
deriving DecidableEq, Repr

/-- The name of a kind. -/
def ParameterKind.name : ParameterKind → Text
  | .string => "string"
  | .number => "number"
  | .date => "date"
  | .time => "time"
  | .unknown => "unknown"

/-- A kind as generated code sees it: an unknown argument is passed as a string. -/
def ParameterKind.resolved : ParameterKind → ParameterKind
  | .unknown => .string
  | kind => kind

/-- The names of the types that arguments have in one target language. -/
structure TypeTable where
  string : Text
  number : Text
  date : Text
  time : Text
deriving DecidableEq, Repr

/-- The type of an argument of the given kind. -/
def TypeTable.typeName (table : TypeTable) : ParameterKind → Text
  | .number => table.number
  | .date => table.date
  | .time => table.time
  | .string => table.string
  | .unknown => table.string

/-- A declared parameter. -/
structure Parameter where
  type : Text
  name : Text
deriving DecidableEq, Repr

/-- The declaration of a parameter; pointer and reference types stand right before the name. -/
def Parameter.text (p : Parameter) : Text :=
  p.type ++ (if p.type.endsWith "&" || p.type.endsWith "*" then [] else [' ']) ++ p.name

/-- The kinds of the arguments of a template, by index. -/
structure Signature where
  kinds : List ParameterKind
deriving DecidableEq, Repr

/-- Why a template has no signature. -/
inductive SignatureError where
  /-- The highest index is beyond what a call can pass. -/
  | tooManyParameters (highest : Nat)
  /-- A number has more digits than can be converted. -/
  | numberTooLong
deriving DecidableEq, Repr

namespace Signature

/-- The most parameters a method of the managed runtime can take. -/
def maxParameters : Nat := 255

/-- The name of the parameter at an index. -/
def parameterName (index : Nat) : Text :=
  'p' :: Text.ofNat index

/-- The kinds as generated code sees them. -/
def resolvedKinds (s : Signature) : List ParameterKind :=
  s.kinds.map ParameterKind.resolved

/-- The declared parameters, in order of index. -/
def parameters (s : Signature) (table : TypeTable) : List Parameter :=
  s.resolvedKinds.mapIdx fun index kind => ⟨table.typeName kind, parameterName index⟩

/-- The names of the parameters, in order of index. -/
def arguments (s : Signature) : List Text :=
  (List.range s.kinds.length).map parameterName

/-- The kinds between brackets. -/
def description (s : Signature) : Text :=
  "[" ++ Text.join ", " (s.resolvedKinds.map ParameterKind.name) ++ "]"

end Signature

/-- A parameter list as it is declared. -/
def Parameter.listText (parameters : List Parameter) : Text :=
  Text.join ", " (parameters.map Parameter.text)

namespace Template

/-- The non-empty digit runs that directly follow an opening brace, in order. -/
def indexRuns : Text → List Text
  | [] => []
  | c :: rest =>
      if c = '\x7b' then
        match rest.takeWhile Text.isDigit with
        | [] => indexRuns rest
        | digits => digits :: indexRuns rest
      else indexRuns rest

/-- The format words that pin down a kind. A choice format accepts more than one type. -/
def keywords : List (Text × ParameterKind) :=
  [("number", .number), ("date", .date), ("time", .time), ("choice", .unknown)]

/-- The text without its leading spaces. -/
def dropSpaces (t : Text) : Text :=
  t.dropWhile (· = ' ')

/-- The kind that is read from the text behind an index. -/
def kindBehind (rest : Text) : ParameterKind :=
  match dropSpaces rest with
  | ',' :: rest =>
      match keywords.find? fun (word, _) => (dropSpaces rest).startsWith word with
      | some (_, kind) => kind
      | none => .string
  | _ => .string

/-- The token that introduces a placeholder. -/
def token (index : Int) : Text :=
  '\x7b' :: Text.ofInt index

/-- The kind of the argument at an index, unknown if no placeholder mentions it. -/
def kindAt (template : Text) (index : Int) : ParameterKind :=
  match template.afterLast (token index) with
  | some rest => kindBehind rest
  | none => .unknown

/-- The signature of a template: one kind for each position up to the highest index. -/
def signature (template : Text) : Except SignatureError Signature :=
  let runs := indexRuns template
  if runs.any fun digits => Text.maxDigits < digits.length then .error .numberTooLong
  else
    match (runs.map Text.digitsValue).max? with
    | none => .ok ⟨[]⟩
    | some highest =>
        if highest < Signature.maxParameters then
          .ok ⟨(List.range (highest + 1)).map fun (index : Nat) => kindAt template index⟩
        else if Text.maxDigits < (Text.ofNat (highest + 1)).length then
          .error .numberTooLong
        else .error (.tooManyParameters highest)

end Template

/-- The wording of a refused template. -/
def SignatureError.message : SignatureError → Text
  | .tooManyParameters highest =>
      "Placeholder \x7b" ++ Text.ofNat highest ++ "\x7d needs " ++ Text.ofNat (highest + 1)
        ++ " parameters; at most " ++ Text.ofNat Signature.maxParameters ++ " are supported"
  | .numberTooLong => Text.tooManyDigits

end MessageCatalog
