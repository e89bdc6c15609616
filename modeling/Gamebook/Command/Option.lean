import Gamebook.Schema.Reader

/-!
# Command lines

A command line is read into options with their values and into operands. There are two ways to read
one. Both know the same kinds of options; this module holds the exact way. It knows an option only
by its full name, and lets its value look like anything.
-/

namespace Gamebook

/-- An option by its name. A flag has no value; any other option has one that must fit. -/
structure OptionSpec where
  name : String
  fits? : Option (String → Bool)

namespace OptionSpec

def flag (name : String) : OptionSpec := ⟨name, none⟩

/-- An option that takes any value. -/
def free (name : String) : OptionSpec := ⟨name, some fun _ => true⟩

/-- An option with a value that can be read. -/
def valued {α : Type} (name : String) (read : String → Option α) : OptionSpec :=
  ⟨name, some fun s => (read s).isSome⟩

def help : OptionSpec := flag "--help"

def isFlag (spec : OptionSpec) : Bool := spec.fits?.isNone

def fits (spec : OptionSpec) (value : String) : Bool := spec.fits?.any fun f => f value

end OptionSpec

/-- What a command line gives: options with their values in order, and operands. -/
structure Arguments where
  options : List (String × String)
  operands : List String

/-- Why a command line is not carried out. -/
inductive Usage where
  | wrong
  | help
deriving DecidableEq

def Usage.exitCode : Usage → Nat
  | wrong => 2
  | help => 0

namespace Arguments

def none : Arguments := ⟨[], []⟩

def addOption (a : Arguments) (name value : String) : Arguments :=
  { a with options := a.options ++ [(name, value)] }

def addOperands (a : Arguments) (l : List String) : Arguments :=
  { a with operands := a.operands ++ l }

def has (a : Arguments) (name : String) : Bool := a.options.any fun (n, _) => n = name

/-- The value of an option, the last one if it is given several times. -/
def value? (a : Arguments) (name : String) : Option String := a.options.reverse.lookup name

end Arguments

/-- The text before the first equals sign and the text behind it, if there is one. -/
def cutAtEquals (s : String) : String × Option String :=
  let cs := s.toList
  match cs.dropWhile (· ≠ '=') with
  | _ :: value => (String.ofList (cs.takeWhile (· ≠ '=')), some (String.ofList value))
  | [] => (s, none)

def beginsOption (s : String) : Bool := s.toList.head? = some '-' && s ≠ "-"

namespace OptionSpec

/-- The arguments of a command, unless they ask for help. -/
def settle (args : Arguments) : Except Usage Arguments :=
  if args.has help.name then .error .help else .ok args

/-- Reads options and operands, after those that are read already. Behind two dashes there are
operands only. Unless options and operands may be mixed, this is so from the first operand on. -/
def readExact (specs : List OptionSpec) (mixed : Bool) (args : Arguments) :
    List String → Except Usage Arguments
  | [] => settle args
  | "--" :: rest => settle (args.addOperands rest)
  | arg :: rest =>
    if !beginsOption arg then
      if mixed then readExact specs mixed (args.addOperands [arg]) rest
      else settle (args.addOperands (arg :: rest))
    else
      let (name, value) := cutAtEquals arg
      match specs.find? fun spec => spec.name = name with
      | none => .error .wrong
      | some spec =>
        if spec.isFlag then
          if value.isSome then .error .wrong
          else readExact specs mixed (args.addOption spec.name "") rest
        else
          match value, rest with
          | some value, rest => readExact specs mixed (args.addOption spec.name value) rest
          | none, value :: rest => readExact specs mixed (args.addOption spec.name value) rest
          | none, [] => .error .wrong

end OptionSpec

/-! ## Values -/

/-- The whole number that an argument writes: a sign and digits of any script, with single
underscores between them. -/
def intArgument? (s : String) : Option Int := do
  let cs := Text.trimBy Text.isBlank s.toList
  let (negative, cs) := takeSign cs
  let digits ← (← Reader.dropUnderscores? cs).mapM Text.digit?
  if digits.isEmpty then failure
  let n : Int ← (Text.readDigits digits).toOption
  return if negative then -n else n

/-! ## Outcomes -/

structure Outcome where
  exitCode : Nat
  output : String
  complaints : String

namespace Outcome

/-- Lines, each with its line end. -/
def lines (l : List String) : String := String.join (l.map (· ++ "\n"))

end Outcome

end Gamebook
