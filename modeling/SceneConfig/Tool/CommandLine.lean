/- What the arguments of the command line ask for.
   They are read from left to right, and the first that decides the request ends the reading. -/

namespace SceneConfig.CommandLine

inductive View where
  | check
  | show
  | dump
deriving DecidableEq, Repr

inductive Command where
  | inspect (view : View)
  | initSettings (path : String)
deriving DecidableEq, Repr

/-- Options as given; each may be given once. -/
structure Options where
  settings? : Option String
  config? : Option String
  logLevel? : Option String
deriving DecidableEq, Repr

inductive Request where
  | run (options : Options) (command : Command)
  | version
  | help
  | misuse
deriving DecidableEq, Repr

inductive Setting where
  | settings
  | config
  | logLevel
deriving DecidableEq, Repr

namespace Setting

def ofLetter? : Char → Option Setting
  | 's' => some .settings
  | 'c' => some .config
  | 'l' => some .logLevel
  | _ => none

def ofName? (name : List Char) : Option Setting :=
  match String.ofList name with
  | "settings" => some .settings
  | "config" => some .config
  | "log-level" => some .logLevel
  | _ => none

end Setting

namespace Options

def none : Options := ⟨.none, .none, .none⟩

def get? (options : Options) : Setting → Option String
  | .settings => options.settings?
  | .config => options.config?
  | .logLevel => options.logLevel?

def set (options : Options) (setting : Setting) (value : String) : Options :=
  match setting with
  | .settings => { options with settings? := value }
  | .config => { options with config? := value }
  | .logLevel => { options with logLevel? := value }

/-- Records a value. A second value is refused, and so is an empty path. -/
def give? (options : Options) (setting : Setting) (value : String) : Option Options :=
  if (options.get? setting).isSome ∨ (value = "" ∧ setting ≠ .logLevel) then .none
  else some (options.set setting value)

end Options

inductive Argument where
  /-- No option, also a dash alone. -/
  | word (text : String)
  /-- Two dashes: only words follow. -/
  | separator
  /-- Letters behind a dash. -/
  | letters (first : Char) (rest : List Char)
  /-- A name behind two dashes, and what follows an equals sign. -/
  | long (name : List Char) (value? : Option String)
deriving DecidableEq, Repr

/-- The name before an equals sign, and the value behind it if there is one. -/
def splitValue (s : List Char) : List Char × Option String :=
  match s.span (· ≠ '=') with
  | (name, _ :: value) => (name, some (String.ofList value))
  | (name, []) => (name, none)

def Argument.ofString (text : String) : Argument :=
  match text.toList with
  | ['-', '-'] => .separator
  | '-' :: '-' :: rest =>
    let (name, value?) := splitValue rest
    .long name value?
  | '-' :: first :: rest => .letters first rest
  | _ => .word text

/-- The request for help or the version that an argument makes by itself. -/
def Argument.request? : Argument → Option Request
  | .letters 'h' _ => some .help
  | .letters 'V' _ => some .version
  | .long name value? =>
    match String.ofList name, value? with
    | "help", none => some .help
    | "version", none => some .version
    | _, _ => none
  | _ => none

/-- The option that an argument gives, and its value if the argument holds it. In letters an
equals sign may stand before the value. -/
def Argument.setting? : Argument → Option (Setting × Option String)
  | .letters first rest =>
    (Setting.ofLetter? first).map fun setting =>
      (setting,
        match rest with
        | [] => none
        | '=' :: value => some (String.ofList value)
        | value => some (String.ofList value))
  | .long name value? => (Setting.ofName? name).map (·, value?)
  | _ => none

def Request.ofNoArguments (request : Request) : List String → Request
  | [] => request
  | argument :: rest =>
    match Argument.ofString argument with
    | .separator => if rest.isEmpty then request else .misuse
    | argument =>
      match argument.request? with
      | some .help => .help
      | _ => .misuse

/-- The arguments of the command that writes settings: a path, once. -/
def Request.ofDestination (options : Options) : (path? : Option String) → List String → Request
  | .none, [] => .misuse
  | some path, [] => .run options (.initSettings path)
  | path?, argument :: rest =>
    match Argument.ofString argument, path? with
    | .separator, .none =>
      match rest with
      | [path] => if path = "" then .misuse else .run options (.initSettings path)
      | _ => .misuse
    | .separator, some path => if rest.isEmpty then .run options (.initSettings path) else .misuse
    | .word path, .none => if path = "" then .misuse else ofDestination options (some path) rest
    | .word _, some _ => .misuse
    | argument, _ =>
      match argument.request? with
      | some .help => .help
      | _ => .misuse

/-- The arguments behind `help`: at most one, the name of a command. -/
def Request.ofHelp : List String → Request
  | [] => .help
  | [topic] =>
    if topic ∈ ["check", "show", "dump", "init-settings", "help"] then .help else .misuse
  | _ => .misuse

def Request.ofCommand (options : Options) (word : String) (rest : List String) : Request :=
  match word with
  | "check" => ofNoArguments (.run options (.inspect .check)) rest
  | "show" => ofNoArguments (.run options (.inspect .show)) rest
  | "dump" => ofNoArguments (.run options (.inspect .dump)) rest
  | "init-settings" => ofDestination options .none rest
  | "help" => ofHelp rest
  | _ => .misuse

/-- Options up to the command. The value of an option may be the next argument, if that is no
option itself. -/
def Request.read (options : Options) : List String → Request
  | [] => .misuse
  | argument :: rest =>
    match Argument.ofString argument with
    | .word word => ofCommand options word rest
    | argument =>
      match argument.request?, argument.setting?, rest with
      | some request, _, _ => request
      | _, some (setting, some value), rest =>
        match options.give? setting value with
        | some options => read options rest
        | .none => .misuse
      | _, some (setting, .none), next :: rest =>
        match Argument.ofString next, options.give? setting next with
        | .word _, some options => read options rest
        | _, _ => .misuse
      | _, _, _ => .misuse

def Request.ofArguments (arguments : List String) : Request :=
  .read .none arguments

end SceneConfig.CommandLine
