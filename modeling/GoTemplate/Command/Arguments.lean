/-
  The command line.

      gotpl compile DOCUMENT [-o|--out FILE] [-c|--config FILE] [--no-escape] [--keep-name]
                             [--package NAME] [--namespace PATH]
      gotpl inspect DOCUMENT

  Options stand before or after the document, a value in the next argument or attached (`--out=F`,
  `-oF`, `-o=F`), and `--` ends the options.  Unknown and repeated options, a value for a switch, a
  missing or an extra argument and an empty file name are all refused.  An argument that looks like
  an option is never taken as a value.
-/
import GoTemplate.Text

namespace GoTemplate

/-- The arguments of a compilation. -/
structure CompileArgs where
  document : Text
  out : Option Text := none
  config : Option Text := none
  noEscape : Bool := false
  keepName : Bool := false
  package : Option Text := none
  namespacePath : Option Text := none
deriving DecidableEq

/-- What the command line asks for. -/
inductive Command where
  | compile (args : CompileArgs)
  | inspect (document : Text)
  | help
deriving DecidableEq

namespace Command

/-! ## Options -/

/-- The options of a subcommand. -/
inductive OptionName where
  | out
  | config
  | package
  | namespacePath
  | noEscape
  | keepName
  | help
deriving DecidableEq

/-- The option of a long name. -/
def OptionName.ofLong? (name : Text) : Option OptionName :=
  if name = "out".toList then some .out
  else if name = "config".toList then some .config
  else if name = "package".toList then some .package
  else if name = "namespace".toList then some .namespacePath
  else if name = "no-escape".toList then some .noEscape
  else if name = "keep-name".toList then some .keepName
  else if name = "help".toList then some .help
  else none

/-- The option of a letter. -/
def OptionName.ofLetter? (c : Char) : Option OptionName :=
  if c = 'o' then some .out
  else if c = 'c' then some .config
  else if c = 'h' then some .help
  else none

/-- The option takes a value. -/
def OptionName.takesValue : OptionName → Bool
  | .out | .config | .package | .namespacePath => true
  | .noEscape | .keepName | .help => false

/-- The option's value is a file name, which is never empty. -/
def OptionName.isFile : OptionName → Bool
  | .out | .config => true
  | _ => false

/-- What has been read of a subcommand's arguments. -/
structure Seen where
  /-- Options in reverse, each with its value (empty for a switch). -/
  options : List (OptionName × Text) := []
  document : Option Text := none

/-- One more option; none may be repeated. -/
def Seen.add (s : Seen) (name : OptionName) (value : Text) : Option Seen :=
  if (s.options.lookup name).isSome ∨ (name.isFile ∧ value.isEmpty) then none
  else some { s with options := (name, value) :: s.options }

/-- The document; there is only one. -/
def Seen.place (s : Seen) (t : Text) : Option Seen :=
  if s.document.isSome ∨ t.isEmpty then none else some { s with document := some t }

/-- The documents after `--`. -/
def Seen.placeAll (s : Seen) : List Text → Option Seen
  | [] => some s
  | t :: rest => (s.place t).bind (·.placeAll rest)

/-! ## Arguments -/

/-- An argument by itself. -/
inductive Argument where
  /-- The `--` that ends the options. -/
  | endOfOptions
  /-- An option, and the value attached to it. -/
  | option (name : Option OptionName) (value : Option Text)
  | plain (t : Text)

/-- Read an argument; a lone dash is no option. -/
def Argument.ofText : Text → Argument
  | ['-', '-'] => .endOfOptions
  | '-' :: '-' :: t =>
    match t.span (· != '=') with
    | (name, '=' :: value) => .option (OptionName.ofLong? name) (some value)
    | (name, _) => .option (OptionName.ofLong? name) none
  | '-' :: c :: t =>
    match OptionName.ofLetter? c, t with
    | some .help, _ => .option (some .help) none
    | name, [] => .option name none
    | name, '=' :: value => .option name (some value)
    | name, value => .option name (some value)
  | t => .plain t

/-- The argument looks like an option. -/
def looksLikeOption : Text → Bool
  | '-' :: _ :: _ => true
  | _ => false

/-- The arguments of a subcommand that knows the options `known`, where `pending` is an option that
    waits for its value: what has been seen, or `none` inside if help is asked for. -/
def readArgs (known : OptionName → Bool) (pending : Option OptionName) (s : Seen) :
    List Text → Option (Option Seen)
  | [] => if pending.isSome then none else some (some s)
  | arg :: rest =>
    match pending with
    | some name =>
      if looksLikeOption arg then none
      else (s.add name arg).bind fun s => readArgs known none s rest
    | none => match Argument.ofText arg with
      | .endOfOptions => (s.placeAll rest).map some
      | .plain t => (s.place t).bind fun s => readArgs known none s rest
      | .option none _ => none
      | .option (some name) value? =>
        if name = .help then if value?.isNone then some none else none
        else if !known name then none
        else match name.takesValue, value? with
          | true, none => readArgs known (some name) s rest
          | true, some value => (s.add name value).bind fun s => readArgs known none s rest
          | false, none => (s.add name []).bind fun s => readArgs known none s rest
          | false, some _ => none

/-- The arguments of a compilation. -/
def Seen.compileArgs? (s : Seen) : Option CompileArgs :=
  s.document.map fun document =>
    { document
      out := s.options.lookup .out
      config := s.options.lookup .config
      noEscape := (s.options.lookup .noEscape).isSome
      keepName := (s.options.lookup .keepName).isSome
      package := s.options.lookup .package
      namespacePath := s.options.lookup .namespacePath }

/-- The command that the arguments spell; `none` if they are refused. -/
def ofArgs? : List Text → Option Command
  | [] => none
  | name :: args =>
    if name = "compile".toList then
      match readArgs (fun _ => true) none {} args with
      | some (some s) => s.compileArgs?.map .compile
      | some none => some .help
      | none => none
    else if name = "inspect".toList then
      match readArgs (fun _ => false) none {} args with
      | some (some s) => s.document.map .inspect
      | some none => some .help
      | none => none
    else if name = "-h".toList ∨ name = "--help".toList then some .help
    else if name = "help".toList then
      if args = [] ∨ args = ["compile".toList] ∨ args = ["inspect".toList] ∨ args = ["help".toList] then
        some .help
      else none
    else none

example : ofArgs? ["compile".toList, "--out=x.go".toList, "p.json".toList, "--keep-name".toList]
    = some (.compile { document := "p.json".toList, out := some "x.go".toList, keepName := true }) := by
  decide
example : ofArgs? ["compile".toList, "p.json".toList, "-o".toList, "--keep-name".toList] = none := by
  decide
example : ofArgs? ["inspect".toList, "--".toList, "-x".toList] = some (.inspect "-x".toList) := by
  decide

end Command

end GoTemplate
