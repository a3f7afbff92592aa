/-!
# Command-line grammars

How a list of arguments is read as options and operands. An option is a name of one or two dashes;
a long one may be shortened as long as it stays unique, and its value may follow an equals sign.
Short options without values may be written together, and the value of a short option may follow it
directly. What follows two dashes alone is never an option. Two dashes as a value are dropped, so an
option can end up without the value that it takes.
-/

namespace OAuthClient.CommandLine

/-- How many values an option takes. -/
inductive Arity where
  | none
  /-- Exactly one. -/
  | one
  /-- One or more. -/
  | many
  deriving DecidableEq, Repr

/-- An option of a command. -/
structure OptionSpec where
  /-- The setting that it makes. -/
  key : String
  /-- Its names, with dashes. -/
  names : List String
  /-- How many values it takes. -/
  arity : Arity := .one
  /-- Whether a value is acceptable. -/
  accepts : String → Bool := fun _ => true

/-- What became of the value of an option that takes one. -/
inductive Given (α : Type) where
  | value (a : α)
  /-- Two dashes, which were dropped. -/
  | dropped
  deriving DecidableEq, Repr

namespace Given

variable {α β : Type}

/-- What was given, its value changed. -/
def map (f : α → β) : Given α → Given β
  | .value a => .value (f a)
  | .dropped => .dropped

/-- The value, if it was not dropped. -/
def toOption : Given α → Option α
  | .value a => some a
  | .dropped => .none

end Given

/-- The operand of a command. -/
inductive Operand where
  /-- No operand. -/
  | none
  /-- One value, which must be given; it makes a setting. -/
  | value (key : String)
  /-- The name of a subcommand with all of its arguments. -/
  | command

/-- What a command takes. -/
structure Grammar where
  options : List OptionSpec
  operand : Operand := .none

/-- Why the arguments of a command are not acted upon. -/
inductive Exit where
  /-- Help was asked for. -/
  | help
  /-- The arguments are not acceptable. -/
  | misuse
  deriving DecidableEq, Repr

/-- An option found in an argument. -/
structure Hit where
  spec : OptionSpec
  /-- Whether its name has a single dash. -/
  short : Bool
  /-- The value within the argument, if there is one. -/
  attached : Option (List Char) := .none

/-- An argument, classified. -/
inductive Piece where
  /-- The first argument that is two dashes alone. -/
  | separator
  /-- A value. -/
  | word (text : String)
  /-- An option, perhaps an unknown one. -/
  | option (text : String) (hit : Option Hit)

/-- The argument of a piece. -/
def Piece.text : Piece → String
  | .separator => "--"
  | .word text => text
  | .option text _ => text

/-- Whether a piece is an option. -/
def Piece.isOption : Piece → Bool
  | .option .. => true
  | _ => false

/-- The value in a piece that is one. -/
def Piece.word? : Piece → Option String
  | .word text => some text
  | _ => .none

namespace Grammar

/-- The names of all options with their options. -/
def named (grammar : Grammar) : List (String × OptionSpec) :=
  grammar.options.flatMap fun spec => spec.names.map fun name => (name, spec)

/-- The option of a name. -/
def find? (grammar : Grammar) (name : List Char) : Option OptionSpec :=
  (grammar.named.find? fun entry => entry.1.toList == name).map Prod.snd

/-- A text cut at its first equals sign. -/
def cutEquals : List Char → List Char × Option (List Char)
  | [] => ([], .none)
  | '=' :: rest => ([], some rest)
  | c :: rest => let (name, value) := cutEquals rest; (c :: name, value)

/-- Whether a name has a single dash. -/
def isShort (name : List Char) : Bool := name.drop 1 |>.head?.all (· != '-')

/-- The options that an argument may stand for by its beginning. -/
def candidates (grammar : Grammar) (argument : List Char) : List Hit :=
  if isShort argument then
    grammar.named.filterMap fun (name, spec) =>
      if name.toList == argument.take 2 then
        some { spec, short := true, attached := some (argument.drop 2) }
      else if argument.isPrefixOf name.toList then some { spec, short := isShort name.toList }
      else .none
  else
    let (start, value) := cutEquals argument
    grammar.named.filterMap fun (name, spec) =>
      if start.isPrefixOf name.toList then
        some { spec, short := isShort name.toList, attached := value }
      else .none

/-- Whether an argument is a negative decimal number. A line break at its end is not looked at. -/
def isNegativeNumber (isDigit : Char → Bool) : List Char → Bool
  | '-' :: rest =>
      let body := if rest.getLast? == some '\n' then rest.dropLast else rest
      let places := (body.dropWhile isDigit).drop 1
      match body.dropWhile isDigit with
      | [] => !body.isEmpty
      | '.' :: _ => !places.isEmpty && places.all isDigit
      | _ => false
  | _ => false

/-- Classifies an argument before any separator; one that may stand for several options is
refused. -/
def classify (grammar : Grammar) (isDigit : Char → Bool) (argument : String) :
    Except Exit Piece :=
  let chars := argument.toList
  if chars.head? != some '-' then .ok (.word argument)
  else match grammar.find? chars with
    | some spec => .ok (.option argument (some { spec, short := isShort chars }))
    | .none =>
        if chars.length = 1 then .ok (.word argument)
        else
          let (name, value) := cutEquals chars
          match value.bind fun _ => grammar.find? name with
          | some spec => .ok (.option argument
              (some { spec, short := isShort name, attached := value }))
          | .none =>
              match grammar.candidates chars with
              | [hit] => .ok (.option argument (some hit))
              | [] =>
                  if isNegativeNumber isDigit chars || chars.contains ' ' then .ok (.word argument)
                  else .ok (.option argument .none)
              | _ => .error .misuse

/-- Classifies arguments; after a separator all are values. -/
def classifyAll (grammar : Grammar) (isDigit : Char → Bool) :
    List String → Except Exit (List Piece)
  | [] => .ok []
  | argument :: rest =>
      if argument = "--" then .ok (.separator :: rest.map .word)
      else do
        let piece ← grammar.classify isDigit argument
        let pieces ← classifyAll grammar isDigit rest
        pure (piece :: pieces)

end Grammar

/-- What was read so far. -/
structure Reading where
  /-- The settings in the order in which they were made. -/
  settings : List (String × List String) := []
  /-- Whether the operand was read. -/
  operandRead : Bool := false
  /-- The subcommand with its arguments. -/
  command : Option (String × List String) := .none
  /-- Whether there were arguments without a meaning. -/
  leftover : Bool := false

namespace Reading

/-- A reading with one more setting; asking for help ends it. The first two dashes among the values
are dropped. -/
def add (reading : Reading) (spec : OptionSpec) (values : List String) : Except Exit Reading :=
  let values := values.erase "--"
  if spec.key = "help" then .error .help
  else if values.all spec.accepts then
    .ok { reading with settings := reading.settings ++ [(spec.key, values)] }
  else .error .misuse

/-- The values of an option's last occurrence. -/
def values? (reading : Reading) (key : String) : Option (List String) :=
  (reading.settings.reverse.find? fun setting => setting.1 == key).map Prod.snd

/-- What an option that takes one value was given at its last occurrence. -/
def value? (reading : Reading) (key : String) : Option (Given String) :=
  (reading.values? key).map fun values => values.head?.elim .dropped .value

/-- Whether an option occurs. -/
def has (reading : Reading) (key : String) : Bool := (reading.values? key).isSome

end Reading

/-- Options with their values, and the pieces after them. -/
structure Taken where
  /-- The options with their values. -/
  options : List (OptionSpec × List String)
  /-- The pieces that follow. -/
  rest : List Piece

/-- The values of an option among the pieces that follow it. -/
def takeValues (spec : OptionSpec) (rest : List Piece) : Except Exit Taken :=
  match spec.arity with
  | .none => .ok { options := [(spec, [])], rest }
  | .one =>
      match rest with
      | .word text :: rest => .ok { options := [(spec, [text])], rest }
      | _ => .error .misuse
  | .many =>
      let words := rest.takeWhile fun piece => piece.word?.isSome
      if words.isEmpty then .error .misuse
      else .ok { options := [(spec, words.filterMap Piece.word?)], rest := rest.drop words.length }

/-- The options of an argument that starts with one option and goes on with its value or, when it is
a short one that takes none, with further short options. -/
def takeOptions (grammar : Grammar) (spec : OptionSpec) (short : Bool) (rest : List Piece) :
    List Char → Except Exit Taken
  | [] => if spec.arity = .none then .error .misuse else .ok { options := [(spec, [""])], rest }
  | c :: more =>
      if spec.arity ≠ .none then .ok { options := [(spec, [String.ofList (c :: more)])], rest }
      else if !short then .error .misuse
      else match grammar.find? ['-', c] with
        | .none => .error .misuse
        | some next => do
            let taken ←
              if more.isEmpty then takeValues next rest else takeOptions grammar next true rest more
            pure { taken with options := (spec, []) :: taken.options }

namespace Reading

/-- Reads an option. -/
def readOption (reading : Reading) (grammar : Grammar) (hit : Option Hit) (rest : List Piece) :
    Except Exit (Reading × List Piece) := do
  match hit with
  | .none => pure ({ reading with leftover := true }, rest)
  | some hit =>
      let taken ← match hit.attached with
        | .none => takeValues hit.spec rest
        | some value => takeOptions grammar hit.spec hit.short rest value
      let reading ←
        taken.options.foldlM (fun reading (spec, values) => reading.add spec values) reading
      pure (reading, taken.rest)

/-- Reads the operand if the pieces start with it. -/
def readOperand (reading : Reading) (operand : Operand) (pieces : List Piece) :
    Option (Reading × List Piece) :=
  if reading.operandRead then .none
  else match operand, pieces with
    | .value key, .separator :: .word text :: rest | .value key, .word text :: .separator :: rest
    | .value key, .word text :: rest =>
        some ({ reading with
          operandRead := true, settings := reading.settings ++ [(key, [text])] }, rest)
    | .command, .separator :: .word text :: rest =>
        some ({ reading with
          operandRead := true, command := some ("--", text :: rest.map Piece.text) }, [])
    | .command, .word text :: rest =>
        some ({ reading with
          operandRead := true, command := some (text, rest.map Piece.text) }, [])
    | _, _ => .none

/-- Reads the pieces up to the last option, then the operand if it is still to come. -/
def readPieces (grammar : Grammar) : Nat → Reading → List Piece → Except Exit Reading
  | 0, reading, _ => .ok reading
  | fuel + 1, reading, pieces =>
      match pieces with
      | .option _ hit :: rest => do
          let (reading, rest) ← reading.readOption grammar hit rest
          readPieces grammar fuel reading rest
      | _ =>
          match reading.readOperand grammar.operand pieces with
          | some (reading, rest) => readPieces grammar fuel reading rest
          | .none =>
              match pieces with
              | [] => .ok reading
              | _ =>
                  readPieces grammar fuel { reading with leftover := true }
                    (pieces.dropWhile fun piece => !piece.isOption)

end Reading

/-- Reads arguments. A value that is the operand must be there. -/
def Grammar.read (grammar : Grammar) (isDigit : Char → Bool) (arguments : List String) :
    Except Exit Reading := do
  let pieces ← grammar.classifyAll isDigit arguments
  let reading ← Reading.readPieces grammar (pieces.length + 1) {} pieces
  match grammar.operand with
  | .value _ => if reading.operandRead then pure reading else throw .misuse
  | _ => pure reading

end OAuthClient.CommandLine
