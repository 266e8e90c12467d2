import EndpointStubs.Config.Basic

/-!
# Arguments

A command and its options. Options are taken in order; an option's value may be the argument
behind it, and is looked at only when the next option or the end is reached. After `--` no
options are left, and nothing else is taken.
-/

namespace EndpointStubs

inductive CommandName where
  | generate
  | inspect
  | clean
  deriving DecidableEq, Repr

structure Options where
  sources : List Path := []
  manifests : List Path := []
  config : Option Path := none
  flags : Config.Flags := {}
  /-- Remove the output first. -/
  clean : Bool := false
  deriving DecidableEq, Repr

structure Command where
  name : CommandName
  options : Options := {}
  deriving DecidableEq, Repr

/-- Why arguments are no command. -/
inductive ArgumentError where
  | unknownArgument
  | invalidValue
  /-- The same option twice. -/
  | conflict
  /-- A value for an option that takes none. -/
  | unwantedValue
  | unknownCommand
  | missingCommand
  | helpWanted
  deriving DecidableEq, Repr

/-- How the program ends without a command. -/
def ArgumentError.exitCode : ArgumentError → Nat
  | helpWanted => 0
  | _ => 2

/-! ## Options -/

inductive Setting where
  | source
  | manifest
  | rootPackage
  | config
  | generatedRoot
  | counterpartRoot
  | policy
  | templates
  | clean
  | help
  deriving DecidableEq, Repr

namespace Setting

/-- The name behind two hyphens. -/
def long : Setting → String
  | source => "src"
  | manifest => "manifest"
  | rootPackage => "root-package"
  | config => "config"
  | generatedRoot => "generated-root"
  | counterpartRoot => "mirror-root"
  | policy => "mode"
  | templates => "templates"
  | clean => "clean"
  | help => "help"

/-- The letter behind one hyphen. -/
def letter? : Setting → Option Char
  | config => some 'c'
  | help => some 'h'
  | _ => none

def takesValue : Setting → Bool
  | clean | help => false
  | _ => true

/-- May be given more than once. -/
def repeats : Setting → Bool
  | source | manifest => true
  | _ => false

end Setting

def CommandName.settings : CommandName → List Setting
  | generate =>
    [.source, .manifest, .rootPackage, .config, .generatedRoot, .counterpartRoot, .policy,
     .templates, .clean, .help]
  | inspect => [.source, .manifest, .rootPackage, .config, .help]
  | clean => [.config, .generatedRoot, .counterpartRoot, .help]

def pathValue (text : String) : Except ArgumentError Path :=
  if text = "" then .error .invalidValue else .ok ⟨text⟩

namespace Options

def withValue (o : Options) (text : String) : Setting → Except ArgumentError Options
  | .source => do return { o with sources := o.sources ++ [← pathValue text] }
  | .manifest => do return { o with manifests := o.manifests ++ [← pathValue text] }
  | .rootPackage => .ok { o with flags := { o.flags with rootPackage := some text } }
  | .config => do return { o with config := some (← pathValue text) }
  | .generatedRoot => do
    return { o with flags := { o.flags with generatedRoot := some (← pathValue text) } }
  | .counterpartRoot => do
    return { o with flags := { o.flags with counterpartRoot := some (← pathValue text) } }
  | .policy =>
    match Policy.ofName? text with
    | some p => .ok { o with flags := { o.flags with policy := some p } }
    | none => .error .invalidValue
  | .templates => do
    return { o with flags := { o.flags with templates := some (← pathValue text) } }
  | .clean => .ok { o with clean := true }
  | .help => .error .helpWanted

end Options

/-! ## Reading options -/

/-- What was read so far. -/
structure Reading where
  options : Options := {}
  /-- The options that were given. -/
  given : List Setting := []
  /-- An option whose value is not looked at yet, with the value once it is there. -/
  pending : Option (Setting × Option String) := none

namespace Reading

/-- Takes an option with its value. -/
def put (r : Reading) (s : Setting) (text : String) : Except ArgumentError Reading := do
  if r.given.contains s && !s.repeats then throw .conflict
  return { options := ← r.options.withValue text s, given := s :: r.given }

/-- Takes the pending option; its value has to be there. -/
def settle (r : Reading) : Except ArgumentError Reading :=
  match r.pending with
  | none => .ok r
  | some (_, none) => .error .invalidValue
  | some (s, some text) => r.put s text

/-- Takes an option with the value attached to it, or waits for its value. -/
def option (r : Reading) (s : Setting) (attached : Option String) :
    Except ArgumentError Reading := do
  let r ← r.settle
  match attached with
  | some text => r.put s text
  | none => return { r with pending := some (s, none) }

/-- Takes an argument that starts with two hyphens. -/
def long (allowed : List Setting) (r : Reading) (cs : List Char) :
    Except ArgumentError Reading := do
  let (name, rest) := cs.span (· ≠ '=')
  let attached := if rest = [] then none else some (String.ofList (rest.drop 1))
  match allowed.find? fun s => s.long = String.ofList name with
  | none => throw .unknownArgument
  | some s =>
    if s.takesValue then r.option s attached
    else if attached.isSome then throw .unwantedValue
    else (← r.settle).put s ""

/-- Takes the letters behind one hyphen; what follows the letter of an option with a value is
that value. -/
def letters (allowed : List Setting) (r : Reading) : List Char → Except ArgumentError Reading
  | [] => .ok r
  | c :: cs =>
    match allowed.find? fun s => s.letter? = some c with
    | none => .error .unknownArgument
    | some s =>
      if s.takesValue then
        r.option s (match cs with
          | [] => none
          | '=' :: cs => some (String.ofList cs)
          | cs => some (String.ofList cs))
      else do letters allowed (← (← r.settle).put s "") cs

def argument (allowed : List Setting) (r : Reading) (text : String) :
    Except ArgumentError Reading :=
  match text.toList with
  | '-' :: '-' :: cs => r.long allowed cs
  | '-' :: c :: cs => r.letters allowed (c :: cs)
  | _ =>
    match r.pending with
    | some (s, none) => .ok { r with pending := some (s, some text) }
    | _ => .error .unknownArgument

def arguments (allowed : List Setting) : Reading → List String → Except ArgumentError Reading
  | r, [] => r.settle
  | r, "--" :: rest => if rest = [] then r.settle else .error .unknownArgument
  | r, text :: rest => do arguments allowed (← r.argument allowed text) rest

end Reading

/-! ## Commands -/

namespace CommandName

def text : CommandName → String
  | generate => "generate"
  | inspect => "inspect"
  | clean => "clean"

def all : List CommandName := [generate, inspect, clean]

def ofText? (s : String) : Option CommandName := all.find? fun c => c.text = s

end CommandName

/-- The name of the command that explains the others. -/
def helpCommand : String := "help"

/-- What follows the help command: at most the name of a command. -/
def helpError : List String → ArgumentError
  | [] => .helpWanted
  | [name] =>
    if name = helpCommand || (CommandName.ofText? name).isSome then .helpWanted
    else .unknownCommand
  | _ => .unknownCommand

/-- Why nothing is left behind `--` in front of a command. -/
def separatedError : List String → ArgumentError
  | [] => .missingCommand
  | name :: _ =>
    if name = helpCommand || (CommandName.ofText? name).isSome then .unknownArgument
    else .unknownCommand

def Command.ofArguments : List String → Except ArgumentError Command
  | [] => .error .missingCommand
  | "--" :: rest => .error (separatedError rest)
  | name :: rest =>
    if name = helpCommand then .error (helpError rest)
    else
      match CommandName.ofText? name with
      | some c => do
        return ⟨c, (← Reading.arguments c.settings {} rest).options⟩
      | none =>
        match name.toList with
        | '-' :: '-' :: cs =>
          match Reading.long [.help] {} cs with
          | .error e => .error e
          | .ok _ => .error .unknownArgument
        | '-' :: c :: cs =>
          match Reading.letters [.help] {} (c :: cs) with
          | .error e => .error e
          | .ok _ => .error .unknownArgument
        | _ => .error .unknownCommand

end EndpointStubs
