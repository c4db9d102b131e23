/-! # Arguments

The arguments of a command are options and operands. An option has a long name behind two dashes
and perhaps a letter behind one; its value is joined to it or is the next argument. Behind two
dashes alone there are only operands. -/

namespace DocSite.CommandLine

/-- What belongs to an option. -/
inductive OptionKind where
  /-- The option asks for help. -/
  | help
  /-- The option stands alone and is given once. -/
  | flag
  /-- The option has a value, and may be given again if `repeats`. -/
  | value (repeats : Bool) (accepts : String → Bool)

/-- An option of a command. -/
structure OptionSpec where
  /-- Its long name. -/
  name : String
  /-- Its letter. -/
  letter : Option Char
  /-- What belongs to it. -/
  kind : OptionKind

/-- An operand of a command. -/
structure OperandSpec where
  /-- Whether it must be given. -/
  required : Bool
  /-- The texts that it can be. -/
  accepts : String → Bool

/-- What a command can be given. -/
structure Shape where
  /-- Its options. -/
  options : List OptionSpec
  /-- Its operands in order. -/
  operands : List OperandSpec

/-- Why a command is not carried out. -/
inductive Stop where
  /-- Help was asked for. -/
  | help
  /-- The arguments are not as they must be. -/
  | misuse
  deriving DecidableEq

/-- What a command has been given. -/
structure Given where
  /-- The names of the options with their values, in order. -/
  options : List (String × String)
  /-- The operands. -/
  operands : List String

namespace Given

/-- Nothing. -/
def nothing : Given := ⟨[], []⟩

/-- Whether an option has been given. -/
def has (given : Given) (name : String) : Bool :=
  given.options.any (·.1 == name)

/-- The values of an option. -/
def values (given : Given) (name : String) : List String :=
  (given.options.filter (·.1 == name)).map (·.2)

/-- Adds an option with its value. -/
def addOption (given : Given) (option : OptionSpec) (value : String) : Except Stop Given :=
  let added : Given := { given with options := given.options ++ [(option.name, value)] }
  match option.kind with
  | .help => .error .help
  | .flag => if given.has option.name then .error .misuse else .ok added
  | .value repeats accepts =>
      if accepts value ∧ (repeats ∨ ¬ given.has option.name) then .ok added else .error .misuse

/-- Adds an operand. -/
def addOperand (shape : Shape) (given : Given) (text : String) : Except Stop Given :=
  match shape.operands[given.operands.length]? with
  | some operand =>
      if operand.accepts text then .ok { given with operands := given.operands ++ [text] }
      else .error .misuse
  | none => .error .misuse

/-- What has been given, unless an operand is missing. -/
def complete (shape : Shape) (given : Given) : Except Stop Given :=
  if (shape.operands.drop given.operands.length).any (·.required) then .error .misuse
  else .ok given

end Given

/-- What an argument leads to: what has been given with it, and the option that waits for a
value. -/
abbrev Progress := Given × Option OptionSpec

/-- Reads an option with its long name. -/
def readLong (shape : Shape) (given : Given) (text : List Char) : Except Stop Progress :=
  let name := String.ofList (text.takeWhile (· != '='))
  let joined := text.dropWhile (· != '=')
  match shape.options.find? (·.name == name), joined with
  | none, _ => .error .misuse
  | some option, [] =>
      match option.kind with
      | .value .. => .ok (given, some option)
      | _ => (given.addOption option "").map (·, none)
  | some option, _ :: value =>
      match option.kind with
      | .value .. => (given.addOption option (String.ofList value)).map (·, none)
      -- Options without a value refuse a joined one.
      | _ => .error .misuse

/-- Reads options with their letters. What follows the letter of an option with a value is the
value, less a leading equals sign. -/
def readLetters (shape : Shape) (given : Given) : List Char → Except Stop Progress
  | [] => .ok (given, none)
  | letter :: rest =>
      match shape.options.find? (·.letter == some letter) with
      | none => .error .misuse
      | some option =>
          match option.kind, rest with
          | .value .., [] => .ok (given, some option)
          | .value .., '=' :: value => (given.addOption option (String.ofList value)).map (·, none)
          | .value .., value => (given.addOption option (String.ofList value)).map (·, none)
          | _, _ => do readLetters shape (← given.addOption option "") rest

/-- Whether an argument is written like an option; a dash alone is not. -/
def isOptionLike (text : String) : Bool :=
  match text.toList with
  | '-' :: _ :: _ => true
  | _ => false

/-- Reads an argument that is written like an option. -/
def readOption (shape : Shape) (given : Given) (text : String) : Except Stop Progress :=
  match text.toList with
  | '-' :: '-' :: long => readLong shape given long
  | _ :: letters => readLetters shape given letters
  | [] => .error .misuse

/-- Reads an argument as the value of the option that waits for it. -/
def readValue (given : Given) (option : OptionSpec) (text : String) : Except Stop Given :=
  if isOptionLike text then .error .misuse else given.addOption option text

/-- Reads arguments of which `waiting` is the option that has no value yet. -/
def readFrom (shape : Shape) (waiting : Option OptionSpec) (given : Given) :
    List String → Except Stop Given
  | [] => if waiting.isSome then .error .misuse else given.complete shape
  | text :: rest =>
      match waiting with
      | some option => do readFrom shape none (← readValue given option text) rest
      | none =>
          if text = "--" then do
            (← rest.foldlM (Given.addOperand shape) given).complete shape
          else if isOptionLike text then do
            let (given, waiting) ← readOption shape given text
            readFrom shape waiting given rest
          else do readFrom shape none (← given.addOperand shape text) rest

/-- Reads the arguments of a command. -/
def read (shape : Shape) (arguments : List String) : Except Stop Given :=
  readFrom shape none .nothing arguments

/-- Reads options up to the first operand, which is given back with what follows it. -/
def readUpToOperand (shape : Shape) (waiting : Option OptionSpec) (given : Given) :
    List String → Except Stop (Given × String × List String)
  | [] => .error .misuse
  | text :: rest =>
      match waiting with
      | some option => do readUpToOperand shape none (← readValue given option text) rest
      | none =>
          if text = "--" then .error .misuse
          else if isOptionLike text then do
            let (given, waiting) ← readOption shape given text
            readUpToOperand shape waiting given rest
          else .ok (given, text, rest)

end DocSite.CommandLine
