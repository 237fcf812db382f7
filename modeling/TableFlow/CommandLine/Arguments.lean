import TableFlow.Decimal.Whole
import TableFlow.Text.Split

/-!
# Arguments of the command line

One argument is the file, the others are options. The name of a long option may be shortened as
long as no other option starts in the same way, and its value may follow an equals sign. Arguments
that look like negative numbers or hold spaces are never options, and neither is anything after two
dashes.
-/

namespace TableFlow.CommandLine

/-- What the command line asks for. -/
structure Options where
  file : String
  filters : List String := []
  sort : List String := []
  aggregate : Option String := none
  pivot : Option String := none
  formulas : List String := []
  config : Option String := none
  stats : Bool := false
  output : Option String := none
  maxRows : Int := 20
  verbose : Bool := false

/-- The options. -/
inductive Flag where
  | help
  | filter
  | sort
  | aggregate
  | pivot
  | formula
  | config
  | stats
  | output
  | maxRows
  | verbose
deriving DecidableEq, Repr

/-- The names of the options. -/
def flagNames : List (String × Flag) := [
  ("-h", .help), ("--help", .help), ("--filter", .filter), ("--sort", .sort),
  ("--aggregate", .aggregate), ("--pivot", .pivot), ("--formula", .formula), ("--config", .config),
  ("--stats", .stats), ("--output", .output), ("--max-rows", .maxRows), ("-v", .verbose),
  ("--verbose", .verbose)]

/-- Tells if an option has a value. -/
def Flag.hasValue : Flag → Bool
  | .help | .stats | .verbose => false
  | _ => true

/-- What an argument holds besides the name of an option. -/
inductive Attached where
  | nothing
  /-- The text after an equals sign. -/
  | value (text : String)
  /-- The letters after a short option. -/
  | letters (cs : List Char)

/-- What an argument is. -/
inductive Argument where
  | plain (text : String)
  | flag (flag : Flag) (attached : Attached)
  /-- Looks like an option but is none. -/
  | unknown
  /-- Two dashes. -/
  | separator

/-- The command line cannot be read, or only help is asked for: the exit code. -/
structure Exit where
  code : Nat
deriving DecidableEq, Repr

def misuse : Exit := ⟨2⟩

def isDigit (c : Char) : Bool := Text.isDecimalDigit c

/-- Tells if an argument looks like a negative number. -/
def looksNegative (text : String) : Bool :=
  match text.toList with
  | '-' :: rest =>
      match rest.dropWhile isDigit with
      | [] => !rest.isEmpty
      | '.' :: fraction => !fraction.isEmpty && fraction.all isDigit
      | _ => false
  | _ => false

/-- The options whose names start with a text. -/
def startingWith (text : String) : List Flag :=
  (flagNames.filter fun (name, _) => name.startsWith text).map (·.2)

/-- Tells what an argument that starts with two dashes is. -/
def classifyLong (text : String) : Except Exit Argument :=
  let (name, value) := match Text.cutFirst? '=' text.toList with
    | some (name, value) => (String.ofList name, Attached.value (String.ofList value))
    | none => (text, .nothing)
  match startingWith name with
  | [flag] => .ok (.flag flag value)
  | [] => .ok (if text.contains ' ' then .plain text else .unknown)
  | _ => .error misuse

/-- Tells what an argument that starts with one dash is. -/
def classifyShort (text : String) : Argument :=
  match flagNames.lookup (String.ofList (text.toList.take 2)) with
  | some flag => .flag flag (.letters (text.toList.drop 2))
  | none => if looksNegative text || text.contains ' ' then .plain text else .unknown

/-- The option that an argument names in full, the value after an equals sign being its value. -/
def exactFlag? (text : String) : Option Argument :=
  match flagNames.lookup text with
  | some flag => some (.flag flag .nothing)
  | none => do
      let (name, value) ← Text.cutFirst? '=' text.toList
      let flag ← flagNames.lookup (String.ofList name)
      some (.flag flag (.value (String.ofList value)))

/-- Tells what an argument is. -/
def classify (text : String) : Except Exit Argument :=
  if text = "--" then .ok .separator
  else if !text.startsWith "-" || text = "-" then .ok (.plain text)
  else
    match exactFlag? text with
    | some argument => .ok argument
    | none => if text.startsWith "--" then classifyLong text else .ok (classifyShort text)

/-- Tells what the arguments are; after two dashes all are plain. -/
def classifyAll : List String → Except Exit (List Argument)
  | [] => .ok []
  | text :: rest => do
      match ← classify text with
      | .separator => .ok (.separator :: rest.map .plain)
      | argument => do
          let others ← classifyAll rest
          .ok (argument :: others)

/-- What has been read of a command line. -/
structure Reading where
  file : Option String := none
  /-- An argument was found that has no place. -/
  surplus : Bool := false
  options : Options := { file := "" }

/-- Takes in an option without a value. -/
def Reading.setFlag (reading : Reading) (flag : Flag) : Except Exit Reading :=
  let options := reading.options
  match flag with
  | .stats => .ok { reading with options := { options with stats := true } }
  | .verbose => .ok { reading with options := { options with verbose := true } }
  | _ => .error ⟨0⟩

/-- Takes in an option with its value. -/
def Reading.setValue (reading : Reading) (flag : Flag) (value : String) : Except Exit Reading :=
  let options := reading.options
  match flag with
  | .filter =>
      .ok { reading with options := { options with filters := options.filters ++ [value] } }
  | .sort => .ok { reading with options := { options with sort := options.sort ++ [value] } }
  | .aggregate => .ok { reading with options := { options with aggregate := some value } }
  | .pivot => .ok { reading with options := { options with pivot := some value } }
  | .formula =>
      .ok { reading with options := { options with formulas := options.formulas ++ [value] } }
  | .config => .ok { reading with options := { options with config := some value } }
  | .output => .ok { reading with options := { options with output := some value } }
  | .maxRows =>
      match Decimal.readWhole? value.toList with
      | some n => .ok { reading with options := { options with maxRows := n } }
      | none => .error misuse
  | .help | .stats | .verbose => .error misuse

/-- Takes in the options whose letters follow a short option. A letter that is none ends them and
has no place; a dash or an equals sign cannot stand there. -/
def Reading.setLetters (reading : Reading) : List Char → Except Exit Reading
  | [] => .ok reading
  | letter :: rest =>
      if letter = '-' then
        .error misuse
      else
        match flagNames.lookup (String.ofList ['-', letter]) with
        | none => .ok { reading with surplus := true }
        | some flag =>
            if rest.head? = some '=' then
              .error misuse
            else do
              let reading ← reading.setLetters rest
              reading.setFlag flag

/-- Takes in an option with what is attached to it. -/
def Reading.setAttached (reading : Reading) (flag : Flag) (attached : Attached) :
    Except Exit Reading :=
  match attached with
  | .value text => if flag.hasValue then reading.setValue flag text else .error misuse
  | .letters cs => do
      let reading ← reading.setLetters cs
      reading.setFlag flag
  | .nothing => if flag.hasValue then .error misuse else reading.setFlag flag

/-- Takes in a plain argument: the first one is the file. -/
def Reading.setPlain (reading : Reading) (text : String) : Reading :=
  match reading.file with
  | none => { reading with file := some text }
  | some _ => { reading with surplus := true }

/-- Takes in the arguments from left to right. Two dashes have a place only beside the file. -/
def Reading.takeAll (reading : Reading) : List Argument → Except Exit Reading
  | [] => .ok reading
  | .plain text :: .separator :: rest =>
      let surplus := reading.surplus || reading.file.isSome
      { reading.setPlain text with surplus }.takeAll rest
  | .plain text :: rest => (reading.setPlain text).takeAll rest
  | .separator :: rest =>
      { reading with surplus := reading.surplus || reading.file.isSome }.takeAll rest
  | .unknown :: rest => { reading with surplus := true }.takeAll rest
  | .flag flag .nothing :: .plain value :: rest =>
      if flag.hasValue then do
        let reading ← reading.setValue flag value
        reading.takeAll rest
      else do
        let reading ← reading.setFlag flag
        reading.takeAll (.plain value :: rest)
  | .flag flag attached :: rest => do
      let reading ← reading.setAttached flag attached
      reading.takeAll rest

/-- Reads a command line. -/
def readArguments (argv : List String) : Except Exit Options := do
  let arguments ← classifyAll argv
  let reading ← Reading.takeAll { file := none } arguments
  match reading.file with
  | none => .error misuse
  | some file => if reading.surplus then .error misuse else .ok { reading.options with file }

end TableFlow.CommandLine
