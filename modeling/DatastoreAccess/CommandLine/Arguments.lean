/-!
# CommandLine.Arguments — what the words of a command line ask for

Words stand at two levels: options of the program, then a command, then options of the command.  An option may be given
once at its level, except where being given often is its meaning.  Any word that fits nowhere makes the line unusable.
-/
namespace DatastoreAccess.CommandLine

/-! ## Options -/

inductive OptionKind where
  | value
  | path
  | flag
  | count
  | help
  | version
  deriving DecidableEq, Repr

structure OptionSpec where
  name : String
  short : Option Char
  kind : OptionKind
  deriving DecidableEq, Repr

def sharedOptions : List OptionSpec :=
  [⟨"verbose", some 'v', .count⟩, ⟨"json-logs", none, .flag⟩, ⟨"help", some 'h', .help⟩]

def programOptions : List OptionSpec :=
  ⟨"config", some 'c', .path⟩ :: ⟨"version", some 'V', .version⟩ :: sharedOptions

inductive CommandName where
  | user
  | dataAdmin
  | provisioner
  | apiKey
  deriving DecidableEq, Repr

def CommandName.ofWord? : String → Option CommandName
  | "user" => some .user
  | "data-admin" => some .dataAdmin
  | "provisioner" => some .provisioner
  | "api-key" => some .apiKey
  | _ => none

def CommandName.options : CommandName → List OptionSpec
  | .user => ⟨"token", none, .value⟩ :: sharedOptions
  | .dataAdmin => ⟨"rdn", none, .value⟩ :: ⟨"token", none, .value⟩ :: ⟨"user-info", none, .value⟩ :: sharedOptions
  | .provisioner => ⟨"token", none, .value⟩ :: ⟨"user-info", none, .value⟩ :: sharedOptions
  | .apiKey => ⟨"key", none, .value⟩ :: sharedOptions

/-! ## Reading one level -/

/-- Why no command is run. -/
inductive Stop where
  | misuse
  | help
  | version
  deriving DecidableEq, Repr

/-- What one level of the line gives. -/
structure Given where
  values : List (String × String)
  flags : List String
  verbosity : Nat
  deriving DecidableEq, Repr

namespace Given

def nothing : Given := ⟨[], [], 0⟩

def value? (g : Given) (name : String) : Option String := g.values.lookup name

def setValue (g : Given) (o : OptionSpec) (v : String) : Except Stop Given :=
  if (g.value? o.name).isSome || (o.kind = .path && v.isEmpty) then .error .misuse
  else .ok { g with values := g.values ++ [(o.name, v)] }

/-- Gives an option that takes no value. -/
def set (g : Given) (o : OptionSpec) : Except Stop Given :=
  match o.kind with
  | .flag => if g.flags.contains o.name then .error .misuse else .ok { g with flags := o.name :: g.flags }
  | .count => .ok { g with verbosity := g.verbosity + 1 }
  | .help => .error .help
  | .version => .error .version
  | _ => .error .misuse

end Given

def takesValue (o : OptionSpec) : Bool := o.kind = .value || o.kind = .path

/-- Whether a word is an option rather than a value. -/
def isOption (word : String) : Bool :=
  match word.toList with
  | ['-'] => false
  | '-' :: _ => true
  | _ => false

/-- The text of a long option before and behind its sign. -/
def cutSign : List Char → List Char × Option (List Char)
  | [] => ([], none)
  | '=' :: cs => ([], some cs)
  | c :: cs => ((c :: (cutSign cs).1), (cutSign cs).2)

/-- Reads a long option; answers the option if its value is the next word. -/
def readLong (specs : List OptionSpec) (g : Given) (cs : List Char) : Except Stop (Given × Option OptionSpec) :=
  let (name, v) := cutSign cs
  match specs.find? fun o => o.name = String.ofList name, v with
  | none, _ => .error .misuse
  | some o, none => if takesValue o then .ok (g, some o) else (g.set o).map (·, none)
  | some o, some v => if takesValue o then (g.setValue o (String.ofList v)).map (·, none) else .error .misuse

/-- Reads short options in one word; the rest of the word is the value of an option that takes one. -/
def readShort (specs : List OptionSpec) : Given → List Char → Except Stop (Given × Option OptionSpec)
  | g, [] => .ok (g, none)
  | g, c :: cs =>
    match specs.find? fun o => o.short = some c with
    | none => .error .misuse
    | some o =>
      if takesValue o then
        match cs with
        | [] => .ok (g, some o)
        | '=' :: v => (g.setValue o (String.ofList v)).map (·, none)
        | v => (g.setValue o (String.ofList v)).map (·, none)
      else
        match g.set o with
        | .ok g => readShort specs g cs
        | .error e => .error e

/-- Reads words up to one that `isCommand`, and answers that with the words behind it.  `awaited` is the option whose
value comes next. -/
def readLevel (specs : List OptionSpec) (isCommand : String → Bool) :
    (awaited : Option OptionSpec) → Given → List String → Except Stop (Given × Option (String × List String))
  | some _, _, [] => .error .misuse
  | some o, g, w :: ws =>
    if isOption w then .error .misuse
    else
      match g.setValue o w with
      | .ok g => readLevel specs isCommand none g ws
      | .error e => .error e
  | none, g, [] => .ok (g, none)
  | none, g, w :: ws =>
    if isCommand w then .ok (g, some (w, ws))
    else
      match w.toList with
      | ['-', '-'] => if ws.isEmpty then .ok (g, none) else .error .misuse
      | '-' :: '-' :: cs =>
        match readLong specs g cs with
        | .ok (g, awaited) => readLevel specs isCommand awaited g ws
        | .error e => .error e
      | '-' :: c :: cs =>
        match readShort specs g (c :: cs) with
        | .ok (g, awaited) => readLevel specs isCommand awaited g ws
        | .error e => .error e
      | _ => .error .misuse

/-! ## Whole lines -/

inductive Command where
  | user (token : Option String)
  | dataAdmin (rdn : String) (token userInfo : Option String)
  | provisioner (token userInfo : Option String)
  | apiKey (key : Option String)
  deriving DecidableEq, Repr

structure Invocation where
  command : Command
  config : Option String
  deriving DecidableEq, Repr

def configVariable : String := "DATASTORE_AUTH_CONFIG_FILE"

def keyVariable : String := "DATASTORE_AUTH_DEMO_API_KEY"

/-- The value of a variable; of several of one name the last counts. -/
def valueOf? (env : List (String × String)) (name : String) : Option String := env.reverse.lookup name

def command (env : List (String × String)) (name : CommandName) (g : Given) : Except Stop Command :=
  match name with
  | .user => .ok (.user (g.value? "token"))
  | .dataAdmin =>
    match g.value? "rdn" with
    | some rdn => .ok (.dataAdmin rdn (g.value? "token") (g.value? "user-info"))
    | none => .error .misuse
  | .provisioner => .ok (.provisioner (g.value? "token") (g.value? "user-info"))
  | .apiKey => .ok (.apiKey ((g.value? "key").or (valueOf? env keyVariable)))

/-- Asking for help about a command. -/
def askHelp : List String → Stop
  | [] => .help
  | w :: ws => if (w = "help" || (CommandName.ofWord? w).isSome) && ws.isEmpty then .help else .misuse

def isCommand (w : String) : Bool := w = "help" || (CommandName.ofWord? w).isSome

/-- What a command line asks for.  A variable stands in for a missing path of the settings, and may not be empty. -/
def read (env : List (String × String)) (words : List String) : Except Stop Invocation := do
  let (g, next) ← readLevel programOptions isCommand none Given.nothing words
  match next with
  | none => throw .misuse
  | some (w, ws) =>
    match CommandName.ofWord? w with
    | none => throw (askHelp ws)
    | some name =>
      let (inner, _) ← readLevel name.options (fun _ => false) none Given.nothing ws
      let cmd ← command env name inner
      let config := (g.value? "config").or (valueOf? env configVariable)
      if config = some "" then throw .misuse
      return ⟨cmd, config⟩

end DatastoreAccess.CommandLine
