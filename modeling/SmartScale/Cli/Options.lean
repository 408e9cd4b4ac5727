import SmartScale.Number.Literal
import SmartScale.Number.Whole

/-!
# Options of a command line

An option is written `--name`, with its value behind it or after an equals sign, and is given at
most once.  A value that begins with a minus sign has to follow an equals sign, unless the option
admits negative numbers and the value looks like one.

Arguments are read from left to right, and the first thing that ends the reading decides: a request
for help, or an argument that does not fit.  The value behind an option is only looked at when the
next option comes or the arguments end.
-/

namespace SmartScale

/-! ## Descriptions -/

inductive ValueKind
  | text
  /-- A path, which is not empty. -/
  | path
  /-- A 64-bit word in decimal. -/
  | word
  | weight
  deriving DecidableEq, Repr

def ValueKind.accepts (text : String) : ValueKind → Bool
  | .text => true
  | path => text != ""
  | word => (Whole.parseWord text.toList).isOk
  | weight => (Reading.parse text).isOk

structure ValueSpec where
  label : String
  kind : ValueKind
  /-- It may be a negative number without an equals sign before it. -/
  negative : Bool
  deriving DecidableEq, Repr

structure OptionSpec where
  /-- Its name without the hyphens. -/
  name : String
  value : Option ValueSpec
  required : Bool
  about : String
  deriving DecidableEq, Repr

structure CommandSpec where
  name : String
  about : String
  options : List OptionSpec
  deriving DecidableEq, Repr

/-! ## Reading -/

/-- Arguments that make up no call. -/
inductive UsageError
  /-- The user asks for help, which is this page. -/
  | help (page : String)
  | version
  /-- There is no such option or command, or an argument too many. -/
  | unexpected (argument : String)
  /-- An option lacks its value, or has one that does not fit. -/
  | badValue (option : String)
  | repeated (option : String)
  /-- An option or the command is missing. -/
  | missing (option : String)
  deriving DecidableEq, Repr

def UsageError.message : UsageError → String
  | help _ => "help was asked for"
  | version => "the version was asked for"
  | unexpected argument => "unexpected argument '" ++ argument ++ "' found"
  | badValue option => "option '--" ++ option ++ "' lacks its value or has one that does not fit"
  | repeated option => "option '--" ++ option ++ "' cannot be used multiple times"
  | missing option => "'" ++ option ++ "' was not provided"

/-- Looks like a number without a sign: digits, at most one point after the first of them and before
the exponent, at most one exponent letter between other characters. -/
def looksNumeric (text : List Char) : Bool :=
  let mantissa := text.takeWhile fun c => c != 'e' && c != 'E'
  let exponent := text.drop mantissa.length
  let isDigitOrPoint (c : Char) : Bool := c.isDigit || c == '.'
  let pointOk := mantissa.count '.' ≤ 1 && mantissa.head? != some '.'
  let exponentOk := match exponent with
    | [] => true
    | _ :: digits => !mantissa.isEmpty && !digits.isEmpty && digits.all Char.isDigit
  mantissa.all isDigitOrPoint && pointOk && exponentOk

/-- The argument can be the value of the option before it. -/
def ValueSpec.canBe (value : ValueSpec) (argument : String) : Bool :=
  match argument.toList with
  | '-' :: rest =>
    rest.isEmpty || (rest.head? != some '-' && value.negative && looksNumeric rest)
  | _ => true

/-- An argument cut at its first equals sign. -/
def splitValue (body : List Char) : String × Option String :=
  let name := body.takeWhile (· != '=')
  match body.drop name.length with
  | _ :: value => (String.ofList name, some (String.ofList value))
  | [] => (String.ofList name, none)

structure GivenOptions where
  /-- Options with their values, the last one first. -/
  settled : List (String × String)
  /-- The last option, if its value stands behind it and has not been looked at. -/
  pending : Option (OptionSpec × String)
  deriving DecidableEq, Repr

namespace GivenOptions

def empty : GivenOptions := ⟨[], none⟩

/-- Adds an option, unless it is there already or its value does not fit. -/
def add (given : GivenOptions) (spec : OptionSpec) (value : String) :
    Except UsageError GivenOptions :=
  if given.settled.any fun option => option.1 == spec.name then .error (.repeated spec.name)
  else if spec.value.any fun v => !v.kind.accepts value then .error (.badValue spec.name)
  else .ok { given with settled := (spec.name, value) :: given.settled }

/-- Looks at the value behind the last option. -/
def settle (given : GivenOptions) : Except UsageError GivenOptions :=
  match given.pending with
  | none => .ok given
  | some (spec, value) => { given with pending := none }.add spec value

def value? (given : GivenOptions) (name : String) : Option String :=
  (given.settled.find? fun option => option.1 == name).map Prod.snd

def has (given : GivenOptions) (name : String) : Bool := (given.value? name).isSome

def complete (given : GivenOptions) (specs : List OptionSpec) : Except UsageError Unit :=
  match specs.find? fun spec => spec.required && !given.has spec.name with
  | some spec => .error (.missing spec.name)
  | none => .ok ()

end GivenOptions

/-- What is understood at one place of the command line. -/
structure Level where
  options : List OptionSpec
  page : String
  /-- It is the outermost place, where the version can be asked for and a command follows. -/
  outermost : Bool

namespace Level

/-- A short option, behind its hyphen; none of them but the requests for help and version exist, and
what follows their letter says nothing. -/
def short (level : Level) (argument : String) (letter : Char) : UsageError :=
  if letter = 'h' then .help level.page
  else if letter = 'V' ∧ level.outermost then .version
  else .unexpected argument

/-- A long option that is none of the level's own. -/
def request (level : Level) (argument name : String) : UsageError :=
  if name = "help" then .help level.page
  else if name = "version" ∧ level.outermost then .version
  else .unexpected argument

/-- Reads options up to the command, or to the end where no command follows.  The command comes with
what stands behind it. -/
def scan (level : Level) (given : GivenOptions) :
    List String → Except UsageError (GivenOptions × Option (String × List String))
  | [] => .ok (given, none)
  | argument :: rest =>
    match argument.toList with
    | ['-', '-'] =>
      match rest with
      | [] => .ok (given, none)
      | next :: _ => .error (.unexpected next)
    | '-' :: '-' :: body =>
      match given.settle with
      | .error e => .error e
      | .ok given =>
        let (name, attached) := splitValue body
        match level.options.find? fun spec => spec.name == name, attached with
        | none, none => .error (level.request argument name)
        | none, some _ => .error (.unexpected argument)
        | some spec, attached =>
          match spec.value, attached with
          | none, some _ => .error (.badValue name)
          | none, none => (given.add spec "").bind fun given => level.scan given rest
          | some _, some value => (given.add spec value).bind fun given => level.scan given rest
          | some value, none =>
            match rest with
            | [] => .error (.badValue name)
            | next :: more =>
              if value.canBe next then
                level.scan { given with pending := some (spec, next) } more
              else .error (.badValue name)
    | '-' :: letter :: _ =>
      match given.settle with
      | .error e => .error e
      | .ok _ => .error (level.short argument letter)
    | _ =>
      if level.outermost then .ok (given, some (argument, rest)) else .error (.unexpected argument)

end Level

end SmartScale
