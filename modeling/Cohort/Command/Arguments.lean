/-!
# Arguments

The arguments of a command are options, each a name after two hyphens, and operands. A value follows its option as
the next argument or after an equals sign; the next argument is no value if it begins with a hyphen and has more.
After two hyphens alone there are only operands.
-/

namespace Cohort

/-- Why a line of arguments names nothing to run. -/
inductive Usage
  | help
  | version
  | mistake
  deriving DecidableEq, Inhabited, Repr

/-- Whether an option has a value, and whether it may be repeated. -/
inductive Arity
  | switch | single | repeated
  deriving DecidableEq, Repr

/-- The options of a command by their names, and how many operands it takes. -/
structure Signature where
  options : List (String × Arity)
  operands : Nat

/-- What has been given: the options in order, with an empty value for a switch, and the operands. -/
structure Arguments where
  options : List (String × String)
  operands : List String
  deriving DecidableEq, Inhabited, Repr

namespace Arguments

/-- The values of an option. -/
def values (a : Arguments) (name : String) : List String := (a.options.filter (·.1 == name)).map (·.2)

def value? (a : Arguments) (name : String) : Option String := a.options.lookup name

def has (a : Arguments) (name : String) : Bool := (a.value? name).isSome

/-- The value of an option that has to be there. -/
def required (a : Arguments) (name : String) : Except Usage String :=
  match a.value? name with
  | some v => .ok v
  | none => .error .mistake

end Arguments

/-- What one argument is. -/
inductive Argument
  /-- An option, with the value that is attached to it. -/
  | option (name : String) (attached : Option String)
  | short (letters : String)
  | separator
  | operand (text : String)
  deriving DecidableEq, Repr

namespace Argument

def ofText (text : String) : Argument :=
  match text.toList with
  | ['-', '-'] => .separator
  | '-' :: '-' :: cs =>
    let name := String.ofList (cs.takeWhile (· != '='))
    match cs.dropWhile (· != '=') with
    | _ :: value => .option name (some (String.ofList value))
    | [] => .option name none
  | '-' :: c :: cs => .short (String.ofList (c :: cs))
  | _ => .operand text

/-- Whether the argument can be the value of the option before it. -/
def isValue (text : String) : Bool :=
  match ofText text with
  | .operand _ => true
  | _ => false

end Argument

namespace Signature

/-- Adds an option, unless it is there and may not be repeated. -/
def addOption (arity : Arity) (name value : String) (a : Arguments) : Except Usage Arguments :=
  if arity != .repeated && a.has name then .error .mistake
  else .ok { a with options := a.options ++ [(name, value)] }

/-- Adds operands, unless they are too many. -/
def addOperands (s : Signature) (texts : List String) (a : Arguments) : Except Usage Arguments :=
  let operands := a.operands ++ texts
  if operands.length ≤ s.operands then .ok { a with operands } else .error .mistake

/-- Reads arguments from left to right, after those that are given already. -/
def readFrom (s : Signature) (a : Arguments) : List String → Except Usage Arguments
  | [] => .ok a
  | text :: rest =>
    match Argument.ofText text with
    | .separator => s.addOperands rest a
    | .operand t => do s.readFrom (← s.addOperands [t] a) rest
    | .short letters =>
      match letters.toList.head? with
      | some 'h' => .error .help
      | some 'V' => .error .version
      | _ => .error .mistake
    | .option name attached =>
      match s.options.lookup name, attached with
      | some .switch, none => do s.readFrom (← addOption .switch name "" a) rest
      | some .switch, some _ => .error .mistake
      | some arity, some value => do s.readFrom (← addOption arity name value a) rest
      | some arity, none =>
        match rest with
        | value :: rest =>
          if Argument.isValue value then do s.readFrom (← addOption arity name value a) rest else .error .mistake
        | [] => .error .mistake
      | none, some _ => .error .mistake
      | none, none =>
        if name == "help" then .error .help else if name == "version" then .error .version else .error .mistake

/-- Reads all arguments of a command. -/
def read (s : Signature) (texts : List String) : Except Usage Arguments := s.readFrom default texts

end Signature

end Cohort
