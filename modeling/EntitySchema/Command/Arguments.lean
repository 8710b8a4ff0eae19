import EntitySchema.Command.Switch
import EntitySchema.Document.Display
import EntitySchema.Text.DecimalDigit

/-!
# Arguments

Reading the arguments of the command line. Each argument is told apart first: a switch, perhaps with
something attached, an unknown switch, a plain argument, or the mark after which all arguments are
plain. Then the switches take effect from left to right. The first thing that is wrong is reported;
only when nothing is wrong with the switches themselves, a missing schema is reported, and after that
the arguments that nothing takes.
-/

namespace EntitySchema.Command

/-- What is wrong with the arguments. -/
inductive ArgumentError where
  /-- A shortened word that several switches begin with. -/
  | ambiguous (argument : String) (candidates : List String)
  | missingValue (switch : Switch)
  | needlessValue (switch : Switch) (value : String)
  | invalidChoice (switch : Switch) (value : String)
  | missingSwitch (switch : Switch)
  | unrecognized (arguments : List String)
deriving DecidableEq

def ArgumentError.message : ArgumentError → String
  | ambiguous argument candidates =>
    "ambiguous option: " ++ argument ++ " could match " ++ Text.joined ", " candidates
  | missingValue switch => "argument " ++ switch.title ++ ": expected one argument"
  | needlessValue switch value =>
    "argument " ++ switch.title ++ ": ignored explicit argument " ++ Document.shownText value
  | invalidChoice switch value =>
    "argument " ++ switch.title ++ ": invalid choice: " ++ Document.shownText value
      ++ " (choose from " ++ Text.joined ", " (switch.choices.map Document.shownText) ++ ")"
  | missingSwitch switch => "the following arguments are required: " ++ switch.title
  | unrecognized arguments => "unrecognized arguments: " ++ Text.joined " " arguments

/-! ## Telling arguments apart -/

/-- An argument by itself. -/
inductive Argument where
  /-- A switch, whether it is spelled as a letter, and what is attached to it in the same argument:
  after a word what follows an equals sign, and after a letter also a value or more letters. -/
  | switch (switch : Switch) (isLetter : Bool) (attached : Option (List Char))
  | unknown (text : String)
  | plain (text : String)
  /-- Two dashes. -/
  | mark
deriving DecidableEq

/-- Whether a text is a number with a minus sign; a line feed may follow. -/
def isNegativeNumber (argument : List Char) : Bool :=
  match argument with
  | '-' :: rest =>
    let unsigned := if rest.getLast? = some '\n' then rest.dropLast else rest
    match unsigned.dropWhile Text.isDecimalDigit with
    | [] => !unsigned.isEmpty
    | '.' :: places => !places.isEmpty && places.all Text.isDecimalDigit
    | _ => false
  | _ => false

/-- The switches whose words begin with a text. -/
def candidates (front : List Char) : List (String × Switch) :=
  Switch.table.filter fun entry => front.isPrefixOf entry.1.toList

/-- An argument that begins with a dash and is no known switch. -/
def unknownOrPlain (argument : List Char) : Argument :=
  if isNegativeNumber argument || argument.contains ' ' then .plain (String.ofList argument)
  else .unknown (String.ofList argument)

/-- A text before its first equals sign, and after it if there is one. -/
def splitAtEquals (argument : List Char) : List Char × Option (List Char) :=
  match argument.span (· != '=') with
  | (front, []) => (front, none)
  | (front, _ :: value) => (front, some value)

/-- Tells apart an argument that begins with two dashes and is no known word: what stands before an
equals sign may be the beginning of one. -/
def readShortened (argument : List Char) : Except ArgumentError Argument :=
  let (front, attached) := splitAtEquals argument
  match candidates front with
  | [] => .ok (unknownOrPlain argument)
  | [(_, switch)] => .ok (.switch switch false attached)
  | several => .error (.ambiguous (String.ofList argument) (several.map Prod.fst))

/-- Tells apart an argument that begins with a dash and something else. -/
def readLetters (argument : List Char) : Argument :=
  match Switch.ofSpelling? (String.ofList (argument.take 2)) with
  | some switch => .switch switch true (some (argument.drop 2))
  | none => unknownOrPlain argument

/-- Tells an argument apart. A known spelling may have a value attached with an equals sign. -/
def Argument.read (argument : String) : Except ArgumentError Argument :=
  let (front, attached) := splitAtEquals argument.toList
  match argument.toList with
  | '-' :: second :: _ =>
    match Switch.ofSpelling? (String.ofList front) with
    | some found => .ok (.switch found (second != '-') attached)
    | none =>
      if second = '-' then readShortened argument.toList else .ok (readLetters argument.toList)
  | _ => .ok (.plain argument)

/-- Tells arguments apart; after the mark all are plain. -/
def readArguments : List String → Except ArgumentError (List Argument)
  | [] => .ok []
  | argument :: rest =>
    if argument = "--" then .ok (.mark :: rest.map .plain)
    else do
      let first ← Argument.read argument
      return first :: (← readArguments rest)

/-! ## What an argument sets -/

/-- What a switch is given. -/
inductive Given where
  | value (text : String)
  /-- Two dashes attached to the switch: they are taken away, and no value is left. -/
  | nothing
deriving DecidableEq

/-- What one argument sets. -/
structure Settings where
  set : List (Switch × Given)
  /-- The last switch, if its value would be the next argument. -/
  open? : Option Switch
deriving DecidableEq

namespace Settings

def one (switch : Switch) (given : Given) : Settings := ⟨[(switch, given)], none⟩

/-- A switch at the end of the argument. -/
def last (switch : Switch) : Settings :=
  if switch.takesValue then ⟨[], some switch⟩ else one switch (.value "")

def after (switch : Switch) (settings : Settings) : Settings :=
  { settings with set := (switch, .value "") :: settings.set }

def attachedValue (value : List Char) : Given :=
  if value = ['-', '-'] then .nothing else .value (String.ofList value)

/-- The settings of a switch and of what is attached to it: after a letter that takes no value there
may be more letters. -/
def ofAttached (switch : Switch) (isLetter : Bool) (attached : List Char) :
    Except ArgumentError Settings :=
  if switch.takesValue then .ok (one switch (attachedValue attached))
  else
    match attached with
    | [] => .error (.needlessValue switch "")
    | c :: rest =>
      match if isLetter then Switch.ofSpelling? (String.ofList ['-', c]) else none with
      | none => .error (.needlessValue switch (String.ofList attached))
      | some next =>
        if rest.isEmpty then .ok (after switch (last next))
        else (ofAttached next true rest).map (after switch)

def ofSwitch (switch : Switch) (isLetter : Bool) (attached : Option (List Char)) :
    Except ArgumentError Settings :=
  match attached with
  | none => .ok (last switch)
  | some attached => ofAttached switch isLetter attached

end Settings

/-! ## Options -/

/-- What the arguments ask for. -/
structure Options where
  schemas : List Given
  output : Option Given
  baseDir : Option Given
  extensionDir : Option Given
  validateOnly : Bool
  dryRun : Bool
  force : Bool
  unknownFlags : Given
  fieldErrors : Given
  /-- How often more log entries were asked for. -/
  verbosity : Nat
  quiet : Bool
deriving DecidableEq

/-- The options without any argument. -/
def Options.initial : Options where
  schemas := []
  output := none
  baseDir := none
  extensionDir := none
  validateOnly := false
  dryRun := false
  force := false
  unknownFlags := .value UnknownFlags.warn.name
  fieldErrors := .value FieldErrors.degrade.name
  verbosity := 0
  quiet := false

/-- What the arguments ask for instead of a run. -/
inductive Stop where
  | showHelp
  | showVersion
  | refuse (error : ArgumentError)
deriving DecidableEq

/-- What a switch is given, if it is one of its choices or no value at all. -/
def choose (switch : Switch) (given : Given) : Except Stop Given :=
  match given with
  | .nothing => .ok .nothing
  | .value text =>
    if switch.choices.contains text then .ok given
    else .error (.refuse (.invalidChoice switch text))

namespace Options

def set (options : Options) (switch : Switch) (given : Given) : Except Stop Options :=
  match switch with
  | .help => .error .showHelp
  | .version => .error .showVersion
  | .schema => .ok { options with schemas := options.schemas ++ [given] }
  | .output => .ok { options with output := some given }
  | .baseDir => .ok { options with baseDir := some given }
  | .extensionDir => .ok { options with extensionDir := some given }
  | .validateOnly => .ok { options with validateOnly := true }
  | .dryRun => .ok { options with dryRun := true }
  | .force => .ok { options with force := true }
  | .unknownExposure =>
    (choose switch given).map fun given => { options with unknownFlags := given }
  | .fieldErrors => (choose switch given).map fun given => { options with fieldErrors := given }
  | .verbose => .ok { options with verbosity := options.verbosity + 1 }
  | .quiet => .ok { options with quiet := true }

def setAll (options : Options) (settings : List (Switch × Given)) : Except Stop Options :=
  settings.foldlM (fun options (switch, given) => options.set switch given) options

def refuse {α : Type} (error : ArgumentError) : Except Stop α := .error (.refuse error)

/-- Lets arguments take effect. The result are the options and the arguments that nothing takes. -/
def apply (options : Options) : List Argument → Except Stop (Options × List String)
  | [] => .ok (options, [])
  | .plain text :: rest => leave options text rest
  | .unknown text :: rest => leave options text rest
  | .mark :: rest => leave options "--" rest
  | .switch switch isLetter attached :: rest => do
    let settings ← (Settings.ofSwitch switch isLetter attached).mapError .refuse
    match settings.open? with
    | none =>
      let options ← options.setAll settings.set
      options.apply rest
    | some last =>
      match rest with
      | .plain value :: rest =>
        let options ← options.setAll (settings.set ++ [(last, .value value)])
        options.apply rest
      | _ => refuse (.missingValue last)
where
  leave (options : Options) (text : String) (rest : List Argument) :
      Except Stop (Options × List String) := do
    let (options, unused) ← options.apply rest
    return (options, text :: unused)

/-- The options that the arguments of the command line ask for. -/
def ofArguments (arguments : List String) : Except Stop Options := do
  let read ← (readArguments arguments).mapError .refuse
  let (options, unused) ← Options.initial.apply read
  if options.schemas.isEmpty then refuse (.missingSwitch .schema)
  else if unused.isEmpty then return options
  else refuse (.unrecognized unused)

end Options
end EntitySchema.Command
