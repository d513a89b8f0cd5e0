import AgentRuns.Event.Basic
import AgentRuns.Text.Digit

/-!
# Options of the inspector

The arguments name one target and may hold options in any place. A long option
may be cut as long as one option alone begins like that, its value may follow an
equals sign or stand in the next argument, and of a repeated option the last
value counts. A divider of two hyphens makes an argument of everything behind
it. Arguments that look like negative numbers or hold a blank are no options.

Arguments are classified before any is used, and used from left to right: a
request for help is granted when it is reached, unless something before it is
wrong. The short form of that request may be repeated in one argument, by its
letter alone and with an equals sign before the first repetition.

Two hyphens behind an equals sign are no value: they leave an option as if it were
not given.
-/

namespace AgentRuns

/-- What an option sets. -/
inductive Switch
  | help
  | json
  | filter
  | statsOnly
  | workRoot
  deriving DecidableEq

/-- What the arguments may be, in one line. -/
def Switch.usage : Text :=
  "usage: inspect [-h] [--json] [--filter TYPE] [--stats-only] [--work-root DIR] target\n"

/-- Every spelling of every option. -/
def Switch.spellings : List (Text × Switch) :=
  [("-h", .help), ("--help", .help), ("--json", .json), ("--filter", .filter),
    ("--stats-only", .statsOnly), ("--work-root", .workRoot)]

/-- An argument that is classified. An option that is not known has no switch. A
    cluster is the short option with letters behind it. -/
inductive Token
  | plain (text : Text)
  | option (switch : Option Switch) (value : Option Text)
  | cluster (behind : Text)
  | divider

namespace Token

/-- The two parts of an argument at its first equals sign. -/
def halves (argument : Text) : Text × Option Text :=
  let (before, behind) := argument.span (· != .char '=')
  match behind with
  | [] => (before, none)
  | _ :: value => (before, some value)

/-- Whether the argument looks like a negative number. -/
def looksNegative (argument : Text) : Bool :=
  match argument with
  | .char '-' :: rest =>
    let (whole, fraction) := rest.span Text.isDigit
    match fraction with
    | [] => !whole.isEmpty
    | [.char '\n'] => !whole.isEmpty
    | .char '.' :: digits =>
      let (part, behind) := digits.span Text.isDigit
      !part.isEmpty && (behind.isEmpty || behind == "\n")
    | _ => false
  | _ => false

/-- The options whose spelling an argument cuts short, or the cluster that it is. -/
def candidates (argument : Text) : List Token :=
  if argument.startsWith "--" then
    let (written, value) := halves argument
    (Switch.spellings.filter (·.1.startsWith written)).map fun (_, switch) =>
      .option switch value
  else if argument.startsWith "-h" then [.cluster (argument.drop 2)]
  else []

/-- The option that an argument spells out. -/
def spelled? (argument : Text) (value : Option Text) : Option Token :=
  (Switch.spellings.lookup argument).map fun switch => .option switch value

/-- The option that is spelled out before an equals sign and the value behind it. The
    short option takes no value but letters. -/
def assigned? (written value : Text) : Option Token :=
  if written == "-h" then some (.cluster value) else spelled? written (some value)

/-- An argument that begins with a hyphen and has more than that; none if it may
    be several options. -/
def ofHyphened? (argument : Text) : Option Token :=
  let (written, value) := halves argument
  match (spelled? argument none).or (value.bind (assigned? written)) with
  | some token => some token
  | none =>
    match candidates argument with
    | [token] => some token
    | _ :: _ :: _ => none
    | [] =>
      if looksNegative argument || argument.contains (.char ' ') then some (.plain argument)
      else some (.option none none)

/-- An argument that no divider stands before; none if it may be several options. -/
def of? (argument : Text) : Option Token :=
  match argument with
  | .char '-' :: _ :: _ => ofHyphened? argument
  | _ => some (.plain argument)

/-- All arguments, plain behind the first divider; none if one of them may be
    several options. -/
def ofArguments? : List Text → Option (List Token)
  | [] => some []
  | argument :: rest =>
    if argument == "--" then some (.divider :: rest.map .plain)
    else do return (← of? argument) :: (← ofArguments? rest)

end Token

/-- What the inspector is asked to do. -/
structure Options where
  target : Text
  json : Bool := false
  filter : Option EventKind := none
  statsOnly : Bool := false
  workRoot : Option Text := none

/-- The outcome of reading the arguments. -/
inductive Reading
  | help
  | rejected
  | options (options : Options)

namespace Options

/-- Options without a target yet, and whether an argument is left over. -/
structure Draft where
  target : Option Text := none
  options : Options := { target := [] }
  leftOver : Bool := false

/-- The draft with the value of an option that takes one, if it is allowed. -/
def Draft.set? (draft : Draft) (switch : Switch) (value : Text) : Option Draft :=
  let given := if value == "--" then none else some value
  match switch with
  | .filter =>
    match given with
    | none => some { draft with options := { draft.options with filter := none } }
    | some name =>
      (EventKind.ofName? name).map fun kind =>
        { draft with options := { draft.options with filter := some kind } }
  | .workRoot => some { draft with options := { draft.options with workRoot := given } }
  | _ => none

/-- The draft with an option that takes no value. -/
def Draft.switchOn (draft : Draft) (switch : Switch) : Draft :=
  match switch with
  | .json => { draft with options := { draft.options with json := true } }
  | .statsOnly => { draft with options := { draft.options with statsOnly := true } }
  | _ => draft

/-- Whether an option needs a value. -/
def takesValue (switch : Switch) : Bool := switch = .filter || switch = .workRoot

/-- Whether everything in a cluster asks for help. -/
def grantsHelp (behind : Text) : Bool := !behind.isEmpty && behind.all (· == .char 'h')

/-- The options of a draft to which nothing is added any more. -/
def Draft.close (draft : Draft) : Reading :=
  match draft.target with
  | some target => if draft.leftOver then .rejected else .options { draft.options with target }
  | none => .rejected

/-- The tokens used from left to right. -/
def readFrom (draft : Draft) : List Token → Reading
  | [] => draft.close
  | .option none _ :: rest => readFrom { draft with leftOver := true } rest
  | .option (some .help) none :: _ => .help
  | .cluster behind :: _ => if grantsHelp behind then .help else .rejected
  | .option (some switch) (some value) :: rest =>
    match draft.set? switch value with
    | some draft => readFrom draft rest
    | none => .rejected
  | .option (some switch) none :: .plain value :: rest =>
    if takesValue switch then
      match draft.set? switch value with
      | some draft => readFrom draft rest
      | none => .rejected
    else readFrom (draft.switchOn switch) (.plain value :: rest)
  | .option (some switch) none :: rest =>
    if takesValue switch then .rejected else readFrom (draft.switchOn switch) rest
  | .plain text :: .divider :: rest =>
    match draft.target with
    | none => readFrom { draft with target := some text } rest
    | some _ => readFrom { draft with leftOver := true } rest
  | .plain text :: rest =>
    match draft.target with
    | none => readFrom { draft with target := some text } rest
    | some _ => readFrom { draft with leftOver := true } rest
  | .divider :: .plain text :: rest =>
    match draft.target with
    | none => readFrom { draft with target := some text } rest
    | some _ => readFrom { draft with leftOver := true } rest
  | .divider :: rest => readFrom { draft with leftOver := true } rest

/-- What the arguments ask for. -/
def read (arguments : List Text) : Reading :=
  match Token.ofArguments? arguments with
  | some tokens => readFrom {} tokens
  | none => .rejected

end Options

end AgentRuns
