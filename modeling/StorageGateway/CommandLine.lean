import StorageGateway.Settings

/-!
# Command line

The arguments of the gateway are read from left to right. An option that takes a value has it behind
an equals sign or as the next argument; the value is only looked at once it is complete, that is at
the next option, so an argument that cannot be placed is reported before a value that stands before
it. Options may be given once, except for the groups, whose values add up and are split at commas.
-/

namespace StorageGateway.CommandLine

/-- Why arguments are not acceptable, or not to be acted upon. -/
inductive UsageError where
  /-- An argument has no meaning. -/
  | unknownArgument
  /-- An option lacks its value, or has an empty one where it needs text. -/
  | invalidValue
  /-- A switch is given a value. -/
  | tooManyValues
  /-- An option is given twice. -/
  | argumentConflict
  /-- Help is asked for. -/
  | displayHelp
deriving DecidableEq, Repr

/-- The options that take a value. -/
inductive ValueOption where
  /-- The directory for sockets. -/
  | socketDirectory
  /-- The directory with the volumes of pods. -/
  | kubeletPath
  /-- The directory with the state of plugins. -/
  | pluginPath
  /-- The groups to serve. -/
  | groups
deriving DecidableEq, Repr

/-- The options without a value. -/
inductive Switch where
  /-- Detailed logging. -/
  | debug
  /-- Logging in JSON. -/
  | jsonLogs
  /-- The help text. -/
  | help
deriving DecidableEq, Repr

/-- An option. -/
inductive AnyOption where
  /-- One that takes a value. -/
  | value (option : ValueOption)
  /-- One that does not. -/
  | switch (switch : Switch)

/-- The option with a long name. -/
def longOption? : String → Option AnyOption
  | "socket-dir" => some (.value .socketDirectory)
  | "kubelet-path" => some (.value .kubeletPath)
  | "plugin-path" => some (.value .pluginPath)
  | "groups" => some (.value .groups)
  | "debug" => some (.switch .debug)
  | "json-logs" => some (.switch .jsonLogs)
  | "help" => some (.switch .help)
  | _ => none

/-- The switch with a letter. -/
def shortSwitch? : Char → Option Switch
  | 'd' => some .debug
  | 'h' => some .help
  | _ => none

/-- What the arguments say. -/
structure Arguments where
  /-- The directory for sockets. -/
  socketDirectory : Option String := none
  /-- The directory with the volumes of pods. -/
  kubeletPath : Option String := none
  /-- The directory with the state of plugins. -/
  pluginPath : Option String := none
  /-- The values of the groups, split at commas. -/
  groups : List String := []
  /-- Whether detailed logging is asked for. -/
  debug : Bool := false
  /-- Whether logging in JSON is asked for. -/
  jsonLogs : Bool := false
deriving DecidableEq, Repr

/-- The directory with the volumes of pods when none is given. -/
def defaultKubeletPath : String := "/var/lib/kubelet"

/-- The directory with the state of plugins when none is given. -/
def defaultPluginPath : String := "/var/lib/kubelet/plugins"

/-- A path that is given once and is not empty. -/
def setPath (old : Option String) (value : String) : Except UsageError (Option String) :=
  if old.isSome then .error .argumentConflict
  else if value.isEmpty then .error .invalidValue
  else .ok (some value)

/-- Takes the value of an option. -/
def Arguments.setValue (a : Arguments) (option : ValueOption) (value : String) :
    Except UsageError Arguments :=
  match option with
  | .socketDirectory => do
    let path ← setPath a.socketDirectory value
    .ok { a with socketDirectory := path }
  | .kubeletPath => do
    let path ← setPath a.kubeletPath value
    .ok { a with kubeletPath := path }
  | .pluginPath => do
    let path ← setPath a.pluginPath value
    .ok { a with pluginPath := path }
  | .groups =>
    .ok { a with groups := a.groups ++ (Text.splitOn ',' value.toList).map String.ofList }

/-- Throws a switch. -/
def Arguments.setSwitch (a : Arguments) : Switch → Except UsageError Arguments
  | .debug => if a.debug then .error .argumentConflict else .ok { a with debug := true }
  | .jsonLogs => if a.jsonLogs then .error .argumentConflict else .ok { a with jsonLogs := true }
  | .help => .error .displayHelp

/-- An option whose value is not complete yet. -/
inductive Pending where
  /-- No option. -/
  | nothing
  /-- An option that waits for its value. -/
  | waiting (option : ValueOption)
  /-- An option whose value has not been looked at. -/
  | given (option : ValueOption) (value : String)
deriving DecidableEq, Repr

/-- Completes the option before. -/
def Arguments.settle (a : Arguments) : Pending → Except UsageError Arguments
  | .nothing => .ok a
  | .waiting _ => .error .invalidValue
  | .given option value => a.setValue option value

/-- An argument by its form. -/
inductive Form where
  /-- Two dashes, behind which there are no options. -/
  | separator
  /-- A long option, possibly with a value. -/
  | long (name : String) (value : Option String)
  /-- Letters of switches. -/
  | short (letters : List Char)
  /-- Anything else. -/
  | plain (text : String)

/-- The form of an argument. -/
def Form.of (argument : String) : Form :=
  match argument.toList with
  | ['-', '-'] => .separator
  | '-' :: '-' :: rest =>
    match rest.dropWhile (· != '=') with
    | [] => .long (String.ofList rest) none
    | _ :: value => .long (String.ofList (rest.takeWhile (· != '='))) (some (String.ofList value))
  | '-' :: c :: letters => .short (c :: letters)
  | _ => .plain argument

/-- Throws the switches of a run of letters. -/
def Arguments.setLetters (a : Arguments) : List Char → Except UsageError Arguments
  | [] => .ok a
  | c :: letters =>
    match shortSwitch? c with
    | none => .error .unknownArgument
    | some switch => do (← a.setSwitch switch).setLetters letters

/-- Reads arguments from left to right. -/
def read (a : Arguments) (pending : Pending) : List String → Except UsageError Arguments
  | [] => a.settle pending
  | argument :: rest =>
    match Form.of argument with
    | .separator => if rest.isEmpty then a.settle pending else .error .unknownArgument
    | .plain text =>
      match pending with
      | .waiting option => read a (.given option text) rest
      | _ => .error .unknownArgument
    | .short [] => .error .unknownArgument
    | .short (c :: letters) =>
      match shortSwitch? c with
      | none => .error .unknownArgument
      | some _ => do
        let settled ← a.settle pending
        read (← settled.setLetters (c :: letters)) .nothing rest
    | .long name value =>
      match longOption? name, value with
      | none, _ => .error .unknownArgument
      | some (.switch _), some _ => .error .tooManyValues
      | some (.switch switch), none => do
        read (← (← a.settle pending).setSwitch switch) .nothing rest
      | some (.value option), some value => do
        read (← (← a.settle pending).setValue option value) .nothing rest
      | some (.value option), none => do
        read (← a.settle pending) (.waiting option) rest

/-- What a list of arguments says. -/
def parse (arguments : List String) : Except UsageError Arguments := read {} .nothing arguments

/-- The group names among the values given: without the blanks around them, and without empty
ones. -/
def Arguments.groupNames (a : Arguments) : List String :=
  (a.groups.map Text.trim).filter (!·.isEmpty)

/-- The fault of a name that is no group's. -/
def unknownGroup (name : String) : Fault :=
  .configuration ("Unknown API group '" ++ name ++ "' (expected one of: " ++
    ", ".intercalate (Group.all.map Group.name) ++ ")")

/-- The settings that arguments ask for, given the user's runtime directory. -/
def Arguments.settings (a : Arguments) (runtimeDirectory : Option String) : Except Fault Settings :=
  match a.groupNames.find? fun name => !(Group.all.map Group.name).contains name with
  | some name => .error (unknownGroup name)
  | none => do
    let roots ←
      Roots.make (a.kubeletPath.getD defaultKubeletPath) (a.pluginPath.getD defaultPluginPath)
    .ok ⟨a.socketDirectory.getD (defaultSocketDirectory runtimeDirectory), roots, a.groupNames⟩

end StorageGateway.CommandLine
