import MessageCatalog.Text.Digit

/-!
# Command lines

A command line is a list of words: options, which start with a hyphen and may be followed by a value,
and operands. A long option may be cut short as long as one option remains, its value may be attached
by an equal sign, and short options without values may be joined. Behind two hyphens alone every word
is an operand. The operands of a command stand together.
-/

namespace MessageCatalog
namespace CommandLine

/-- An option by its names, the last of which is the name it is known by. -/
structure OptionForm where
  names : List Text
  /-- The option has a value. -/
  takesValue : Bool
deriving DecidableEq, Repr

/-- Which operands a command has. -/
inductive Operands where
  /-- Any number of them. -/
  | any
  | one
  /-- A word, and all words behind it whatever they are. -/
  | command
deriving DecidableEq, Repr

/-- What the words of a command line may be. -/
structure Grammar where
  options : List OptionForm
  operands : Operands
deriving DecidableEq, Repr

/-- Why a command line is not carried out. -/
inductive Refusal where
  /-- It asks for an explanation of the command line instead. -/
  | help
  | misused
deriving DecidableEq, Repr

/-- What a word is. -/
inductive Word where
  | operand
  /-- Two hyphens alone. -/
  | separator
  /-- An option under one of its names, with an attached value perhaps. -/
  | option (form : OptionForm) (name : Text) (attached : Option Text)
  /-- It looks like an option but is none. -/
  | unknown
deriving DecidableEq, Repr

/-- The words of a command line by their use. -/
structure Uses where
  /-- The given options by the names they are known by, with their values, in order. -/
  options : List (Text × Text)
  /-- The operands, if they have been met. -/
  operands : Option (List Text)
  /-- A word has no use. -/
  hasLeftover : Bool
deriving DecidableEq, Repr

/-- The name that an option is known by. -/
def OptionForm.name (form : OptionForm) : Text :=
  form.names.getLastD []

/-- The option that every command has, which asks for an explanation. -/
def helpForm : OptionForm := ⟨["-h", "--help"], false⟩

/-- The separator of options and operands. -/
def separator : Text := ['-', '-']

/-- A word that is a negative number: digits with a point among or before them perhaps. -/
def isNegativeNumber (t : Text) : Bool :=
  match t with
  | '-' :: digits =>
      match digits.dropWhile Text.isDigit with
      | [] => !digits.isEmpty
      | '.' :: fraction => !fraction.isEmpty && fraction.all Text.isDigit
      | _ => false
  | _ => false

namespace Grammar

/-- All names of options with their options. -/
def names (g : Grammar) : List (Text × OptionForm) :=
  (helpForm :: g.options).flatMap fun form => form.names.map (·, form)

/-- The options that a word behind a hyphen can be short for. -/
def candidates (g : Grammar) (word : Text) : List Word :=
  match word with
  | '-' :: '-' :: _ =>
      let (start, attached) :=
        match word.cut '=' with
        | some (start, attached) => (start, some attached)
        | none => (word, none)
      (g.names.filter fun (name, _) => name.startsWith start).map fun (name, form) =>
        .option form name attached
  | _ =>
      g.names.filterMap fun (name, form) =>
        if name = word.take 2 then some (.option form name (some (word.drop 2)))
        else if name.startsWith word then some (.option form name none)
        else none

/-- What a word before the separator is. -/
def wordOf (g : Grammar) (word : Text) : Except Refusal Word :=
  if word.head? ≠ some '-' then .ok .operand
  else
    match g.names.lookup word with
    | some form => .ok (.option form word none)
    | none =>
        if word.length = 1 then .ok .operand
        else
          let exact : Option Word := do
            let (name, attached) ← word.cut '='
            return .option (← g.names.lookup name) name (some attached)
          match exact, g.candidates word with
          | some option, _ => .ok option
          | none, [option] => .ok option
          | none, _ :: _ => .error .misused
          | none, [] =>
              if isNegativeNumber word || word.contains ' ' then .ok .operand else .ok .unknown

/-- The words of a command line and what they are. -/
def wordsOf (g : Grammar) : List Text → Except Refusal (List (Text × Word))
  | [] => .ok []
  | word :: words =>
      if word = separator then
        .ok ((word, .separator) :: words.map (·, .operand))
      else do
        let use ← g.wordOf word
        return (word, use) :: (← wordsOf g words)

/-- The word is no option. -/
def isOperand (word : Text × Word) : Bool :=
  word.2 = .operand || word.2 = .separator

/-- The operands that a run of words gives, the separator among them left out, and what is left of the
words. The words behind the run are given too. -/
def takeOperands (g : Grammar) (run rest : List (Text × Word)) :
    Except Refusal (List Text × List (Text × Word)) :=
  match g.operands with
  | .any => .ok ((run.map (·.1)).erase separator, rest)
  | .one =>
      match run with
      | (_, .separator) :: (operand, _) :: run => .ok ([operand], run ++ rest)
      | (operand, .operand) :: (_, .separator) :: run => .ok ([operand], run ++ rest)
      | (operand, .operand) :: run => .ok ([operand], run ++ rest)
      | _ => .error .misused
  | .command =>
      match run with
      | (_, .operand) :: _ => .ok ((run ++ rest).map (·.1), [])
      | _ => .error .misused

/-- What stands behind the first of joined short options: the next option, to which what follows it is
attached. -/
def nextJoined (g : Grammar) : Text → Except Refusal Word
  | [] => .error .misused
  | c :: attached =>
      match g.names.lookup ['-', c] with
      | some form => .ok (.option form ['-', c] (if attached.isEmpty then none else some attached))
      | none => .error .misused

/-- The uses of words, added to earlier ones. Each step takes a word or a joined option, which `fuel`
bounds. -/
def usesFrom (g : Grammar) (uses : Uses) : Nat → List (Text × Word) → Except Refusal Uses
  | _, [] => .ok uses
  | 0, _ => .error .misused
  | fuel + 1, (word, use) :: words =>
      let given (form : OptionForm) (value : Text) : Uses :=
        { uses with options := uses.options ++ [(form.name, value)] }
      match use with
      | .unknown => usesFrom g { uses with hasLeftover := true } fuel words
      | .option form _ none =>
          if form = helpForm then .error .help
          else if !form.takesValue then usesFrom g (given form []) fuel words
          else
            match words with
            | (value, .operand) :: words => usesFrom g (given form value) fuel words
            | _ => .error .misused
      | .option form name (some attached) =>
          if form.takesValue then usesFrom g (given form attached) fuel words
          else if name.startsWith separator then .error .misused
          else do
            let next ← g.nextJoined attached
            if form = helpForm then throw .help
            usesFrom g (given form []) fuel ((word, next) :: words)
      | _ =>
          let all := (word, use) :: words
          let run := all.takeWhile isOperand
          let rest := all.dropWhile isOperand
          if uses.operands.isSome then usesFrom g { uses with hasLeftover := true } fuel rest
          else do
            let (operands, rest) ← g.takeOperands run rest
            usesFrom g { uses with operands := some operands } fuel rest

/-- The uses of the words of a command line. -/
def usesOf (g : Grammar) (words : List Text) : Except Refusal Uses := do
  let steps := words.flatten.length + words.length
  let uses ← usesFrom g ⟨[], none, false⟩ steps (← g.wordsOf words)
  if uses.operands.isSome then return uses
  match g.operands with
  | .any => return { uses with operands := some [] }
  | _ => throw .misused

end Grammar

namespace Uses

/-- The value of an option; of several the last one counts. -/
def value? (u : Uses) (name : Text) : Option Text :=
  u.options.reverse.lookup name

/-- The option is given. -/
def has (u : Uses) (name : Text) : Bool :=
  (u.value? name).isSome

end Uses

end CommandLine
end MessageCatalog
