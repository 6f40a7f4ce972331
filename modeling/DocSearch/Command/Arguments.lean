/-!
# Command line arguments

The arguments behind the name of a command are operands and options. An option is given by two
dashes and its name or by one dash and a letter; its value follows as an argument of its own or
behind an equals sign, for a letter also directly. An argument that begins with a dash is always an
option, up to the argument `--`, behind which there are only operands. No option may be given twice.

Arguments are looked at in their order, so help is given to those who ask for it unless something
is wrong in front of the question; what comes behind it or is missing does not matter.
-/

namespace DocSearch.Command

/-- Why arguments are not carried out. -/
inductive Refusal where
  /-- They do not follow the rules. -/
  | usage
  /-- They ask for help. -/
  | help
deriving DecidableEq, Repr

/-- An option that a command knows. -/
structure OptionRule where
  /-- Its name; a name of one letter is given by one dash. -/
  name : String
  /-- Which texts it takes as its value, if it has one. -/
  accepts? : Option (String → Bool)

/-- What a command expects. -/
structure Grammar where
  /-- Which texts it takes as its operands, one after the other. -/
  operands : List (String → Bool)
  /-- The options. -/
  options : List OptionRule

/-- The rule for an option. -/
def Grammar.rule? (g : Grammar) (name : String) : Option OptionRule :=
  g.options.find? (·.name = name)

/-- The option is known and takes the text as its value; one without a value takes any. -/
def Grammar.acceptsValue (g : Grammar) (name value : String) : Bool :=
  match g.rule? name with
  | some ⟨_, some accepts⟩ => accepts value
  | some ⟨_, none⟩ => true
  | none => false

/-- Operands and options in the order in which they are given. -/
structure Arguments where
  /-- The operands. -/
  operands : List String := []
  /-- The options by name with their values; those without a value have an empty one. -/
  options : List (String × String) := []
  /-- They end in a question for help. -/
  asksForHelp : Bool := false
deriving DecidableEq, Repr

namespace Arguments

/-- The arguments with one more operand in front. -/
def pushOperand (s : String) (a : Arguments) : Arguments := { a with operands := s :: a.operands }

/-- The arguments with one more option in front. -/
def pushOption (name value : String) (a : Arguments) : Arguments :=
  { a with options := (name, value) :: a.options }

/-- The values of an option. -/
def values (a : Arguments) (name : String) : List String :=
  (a.options.filter fun (n, _) => n = name).map Prod.snd

/-- No option is given twice. -/
def optionsOnce (a : Arguments) : Bool := a.options.all fun (n, _) => (a.values n).length = 1

/-- The value of an option, if it is given. -/
def value? (a : Arguments) (name : String) : Option String := (a.values name).head?

/-- As many operands as are expected or fewer are given, no option is given twice, and each text is
one that is taken in its place. -/
def fits (g : Grammar) (a : Arguments) : Bool :=
  a.operands.length ≤ g.operands.length &&
    (a.operands.zip g.operands).all (fun (s, accepts) => accepts s) &&
    a.optionsOnce && a.options.all fun (name, value) => g.acceptsValue name value

end Arguments

/-- An argument by its form. -/
inductive Form where
  /-- An operand or a value. -/
  | plain
  /-- Two dashes. -/
  | separator
  /-- An option with a value attached to it or without. -/
  | option (name : String) (value : Option String)
deriving DecidableEq, Repr

/-- Splits a text at the first equals sign, if it has one. -/
def splitValue (s : List Char) : String × Option String :=
  match s.dropWhile (· ≠ '=') with
  | [] => (String.ofList s, none)
  | _ :: value => (String.ofList (s.takeWhile (· ≠ '=')), some (String.ofList value))

/-- The form of an argument. A lone dash is no option. -/
def formOf (argument : String) : Form :=
  match argument.toList with
  | ['-', '-'] => .separator
  | '-' :: '-' :: s =>
    let (name, value) := splitValue s
    if name.length = 1 then .option ("--" ++ name) value else .option name value
  | '-' :: c :: s =>
    match s with
    | [] => .option (String.singleton c) none
    | '=' :: value => .option (String.singleton c) (some (String.ofList value))
    | value => .option (String.singleton c) (some (String.ofList value))
  | _ => .plain

/-- The form is a question for help: `--help`, or `-h` with whatever is attached to it. -/
def Form.asksForHelp : Form → Bool
  | .option name value => name = "h" || (name = "help" && value.isNone)
  | _ => false

/-- Takes arguments apart up to the first question for help, unless one of them is an option that
is not known, lacks its value or has one that it should not have. -/
def scan (g : Grammar) : List String → Option Arguments
  | [] => some {}
  | argument :: rest =>
    let form := formOf argument
    if form.asksForHelp then some { asksForHelp := true }
    else
      match form with
      | .plain => (scan g rest).map (·.pushOperand argument)
      | .separator => some { operands := rest }
      | .option name value =>
        match (g.rule? name).map OptionRule.accepts?, value with
        | none, _ => none
        | some none, some _ => none
        | some none, none => (scan g rest).map (·.pushOption name "")
        | some (some _), some value => (scan g rest).map (·.pushOption name value)
        | some (some _), none =>
          match rest with
          | [] => none
          | value :: rest =>
            if formOf value = .plain then (scan g rest).map (·.pushOption name value) else none

/-- The arguments of a command, if they fit what it expects and are complete. -/
def Arguments.ofList (g : Grammar) (arguments : List String) : Except Refusal Arguments :=
  match scan g arguments with
  | none => .error .usage
  | some a =>
    if !a.fits g then .error .usage
    else if a.asksForHelp then .error .help
    else if a.operands.length = g.operands.length then .ok a
    else .error .usage

end DocSearch.Command
