import IngressController.CommandLine.Options
import IngressController.Text.Map

/-!
# Reading a command line

The arguments are read from left to right. An option stands behind two hyphens, with its value
behind an equals sign or as the next argument; the latter is only taken in when the argument behind
it has turned out to be known, so an argument that is not known is refused first. What is not given
on the command line is taken from the environment, and what is not given there has its default.
-/

set_option autoImplicit false

namespace IngressController.CommandLine

/-- How far a command line has been read. -/
structure Progress where
  options : Options := {}
  /-- The options given so far. -/
  given : List Flag := []
  /-- The option whose separate value has not been taken in yet, and that value if it was there. -/
  pending : Option (Flag × Option String) := none
  /-- Whether only arguments without a name may follow. -/
  onlyPlain : Bool := false

namespace Progress

/-- Sets an option, which must not have been given before. -/
def give (p : Progress) (flag : Flag) (value : String) : Except Refusal Progress :=
  if p.given.contains flag then .error .argumentConflict
  else do
    let options ← flag.set p.options value
    return { p with options, given := flag :: p.given }

/-- Takes in the option that is pending; without a value it is refused. -/
def flush (p : Progress) : Except Refusal Progress :=
  match p.pending with
  | none => .ok p
  | some (flag, some value) => { p with pending := none }.give flag value
  | some (_, none) => .error .invalidValue

/-- Reads an option by its name, with the value behind an equals sign if there is one. -/
def readNamed (p : Progress) (name : String) (value? : Option String) : Except Refusal Progress :=
  match Flag.ofName? name with
  | none => .error .unknownArgument
  | some flag =>
    if flag.isSwitch then
      match value? with
      | some _ => .error .tooManyValues
      | none => do (← p.flush).give flag ""
    else do
      let p ← p.flush
      match value? with
      | some value => p.give flag value
      | none => return { p with pending := some (flag, none) }

/-- Reads options by their letters. -/
def readLetters (p : Progress) : List Char → Except Refusal Progress
  | [] => .ok p
  | c :: rest =>
    match Flag.ofLetter? c with
    | none => .error .unknownArgument
    | some flag => do readLetters (← (← p.flush).give flag "") rest

/-- Reads an argument that names no option: the value of the one that waits for it. -/
def readPlain (p : Progress) (text : String) : Except Refusal Progress :=
  match p.pending with
  | some (flag, none) =>
    if p.onlyPlain then .error .unknownArgument
    else .ok { p with pending := some (flag, some text) }
  | _ => .error .unknownArgument

/-- Reads the next argument. -/
def read (p : Progress) (argument : String) : Except Refusal Progress :=
  if p.onlyPlain then p.readPlain argument
  else match argument.toList with
    | ['-', '-'] => .ok { p with onlyPlain := true }
    | '-' :: '-' :: rest =>
      let text := String.ofList rest
      match Text.splitOnce '=' text with
      | some (name, value) => p.readNamed name (some value)
      | none => p.readNamed text none
    | '-' :: c :: rest => p.readLetters (c :: rest)
    | _ => p.readPlain argument

/-- Sets an option from the environment unless it has been given. -/
def fromVariable (env : TextMap String) (p : Progress) (flag : Flag) : Except Refusal Progress :=
  match flag.variableName.bind env.get? with
  | some value => if p.given.contains flag then .ok p else p.give flag value
  | none => .ok p

end Progress

/-- The options of a command line in an environment. -/
def Options.parse (arguments : List String) (env : TextMap String) : Except Refusal Options := do
  let p ← arguments.foldlM Progress.read {}
  let p ← p.flush
  let p ← Flag.all.foldlM (Progress.fromVariable env) p
  return p.options

end IngressController.CommandLine
