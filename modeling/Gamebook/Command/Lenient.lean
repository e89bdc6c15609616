import Gamebook.Command.Option

/-!
# Lenient command lines

The lenient way to read a command line completes an option that is not written out in full, and does
not take what looks like an option for a value. A command that is read in this way has no operands.
What an argument looks like is settled for the whole command line first, up to two dashes; then the
arguments are taken one after the other, and the first of them that is wrong or asks for help ends
the reading. What is left over is wrong in the end.
-/

namespace Gamebook

/-- What an argument looks like among the options of a command. -/
inductive Look where
  | operand
  | option (spec : OptionSpec) (value : Option String)
  | help
  /-- An option in a form that it does not have. -/
  | misused
  | unknown
  | ambiguous

namespace Look

def isAmbiguous : Look → Bool
  | ambiguous => true
  | _ => false

/-- The look of an option with a value that is joined to it, if there is one. -/
def ofSpec (spec : OptionSpec) (value : Option String) : Look :=
  if spec.isFlag && value.isSome then misused
  else if spec.name = OptionSpec.help.name then help
  else option spec value

/-- The look of a bundle of letters, of which only `h` is one of an option. -/
def ofLetters (letters : List Char) : Look := if letters.all (· = 'h') then help else misused

/-- Is it a negative number, rather than the name of an option? A line feed may follow it. -/
def isNegativeNumber (cs : List Char) : Bool :=
  let isDigit (c : Char) := (Text.digit? c).isSome
  match cs with
  | '-' :: digits =>
    let digits := Text.dropFinalLineFeed digits
    match digits.dropWhile isDigit with
    | [] => !digits.isEmpty
    | '.' :: fraction => !fraction.isEmpty && fraction.all isDigit
    | _ => false
  | _ => false

/-- The look of an argument that begins like a long option but is none: it may be completed. -/
def ofStart (specs : List OptionSpec) (start : String) (value : Option String) : Option Look :=
  match specs.filter fun spec => start.toList.isPrefixOf spec.name.toList with
  | [] => none
  | [spec] => some (ofSpec spec value)
  | _ => some ambiguous

def ofArgument (specs : List OptionSpec) (arg : String) : Look :=
  if !beginsOption arg then operand
  else
    let (name, value) := cutAtEquals arg
    let other := if isNegativeNumber arg.toList || arg.toList.contains ' ' then operand else unknown
    match arg.toList with
    | '-' :: 'h' :: '=' :: letters => if letters.isEmpty then misused else ofLetters letters
    | '-' :: 'h' :: letters => ofLetters letters
    | '-' :: '-' :: _ =>
      match specs.find? fun spec => spec.name = name with
      | some spec => ofSpec spec value
      | none => (ofStart specs name value).getD other
    | _ => other

end Look

namespace OptionSpec

/-- Takes arguments by their looks, after those that are taken already. -/
def take (args : Arguments) : List (String × Look) → Except Usage Arguments
  | [] => .ok args
  | (_, .help) :: _ => .error .help
  | (_, .misused) :: _ | (_, .ambiguous) :: _ => .error .wrong
  | (arg, .operand) :: rest | (arg, .unknown) :: rest => take (args.addOperands [arg]) rest
  | (_, .option spec (some value)) :: rest =>
    if spec.fits value then take (args.addOption spec.name value) rest else .error .wrong
  | (_, .option spec none) :: rest =>
    if spec.isFlag then take (args.addOption spec.name "") rest
    else
      match rest with
      | (value, .operand) :: rest =>
        if spec.fits value then take (args.addOption spec.name value) rest else .error .wrong
      | _ => .error .wrong

/-- Reads the command line of a command without operands. -/
def readLenient (specs : List OptionSpec) (args : List String) : Except Usage Arguments := do
  let given := args.takeWhile (· ≠ "--")
  let looks := given.map fun arg => (arg, Look.ofArgument specs arg)
  if looks.any fun (_, look) => look.isAmbiguous then throw .wrong
  let taken ← take .none looks
  if taken.operands.isEmpty && given.length = args.length then return taken else throw .wrong

end OptionSpec

end Gamebook
