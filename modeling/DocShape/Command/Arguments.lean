import DocShape.Path.Syntax
import DocShape.Tag

/-!
The arguments of the command line. They are read from left to right: an option takes the values
that follow it, until the next argument that begins with a dash, and its values are judged when
the next option begins or the arguments end. What is asked for first decides: help, or a refusal.
-/

namespace DocShape.Command

/-- Which documents to load, and what to select in each. -/
structure InputSettings where
  ndjson : Bool
  pointer : Option String
  inputs : List String

/-- What to do with each document. -/
inductive Request where
  /-- Write the node at a path, converted if a tag is given. -/
  | get (settings : InputSettings) (path : Path) (cast : Option Tag) (strict : Bool)
  /-- Check against the shape of samples. -/
  | check (settings : InputSettings) (samples : List String) (allowAdditional asJson : Bool)

/-- Why there is no request. -/
inductive Stop where
  | help
  | refused

/-- The two commands. -/
inductive CommandName where
  | get
  | check
deriving DecidableEq

/-- Options that take values. -/
inductive ValueOption where
  | input
  | like
  | jsonPointer
  | path
  | cast
deriving DecidableEq

/-- Options that take none. -/
inductive Flag where
  | ndjson
  | strict
  | allowAdditional
  | json
deriving DecidableEq

/-- What an argument with dashes names. -/
inductive OptionName where
  | value (o : ValueOption)
  | flag (f : Flag)
  | help

/-- Whether an option takes any number of values, at least one, and may be given again. -/
def ValueOption.takesMany : ValueOption → Bool
  | .input | .like => true
  | _ => false

/-- The option with a long name. -/
def longOption? (c : CommandName) : String → Option OptionName
  | "help" => some .help
  | "ndjson" => some (.flag .ndjson)
  | "json-pointer" => some (.value .jsonPointer)
  | "input" => some (.value .input)
  | "path" => if c = .get then some (.value .path) else none
  | "cast" => if c = .get then some (.value .cast) else none
  | "strict" => if c = .get then some (.flag .strict) else none
  | "like" => if c = .check then some (.value .like) else none
  | "allow-additional" => if c = .check then some (.flag .allowAdditional) else none
  | "json" => if c = .check then some (.flag .json) else none
  | _ => none

/-- The option with a letter. -/
def shortOption? (c : CommandName) : Char → Option OptionName
  | 'h' => some .help
  | 'i' => some (.value .input)
  | 'p' => if c = .get then some (.value .path) else none
  | _ => none

/-- An option that is taking values, and whether it may take more. -/
structure Pending where
  option : ValueOption
  values : List String
  isOpen : Bool

/-- What was read so far. -/
structure ArgumentState where
  values : List (ValueOption × List String) := []
  path : Option Path := none
  cast : Option Tag := none
  flags : List Flag := []
  pending : Option Pending := none
  /-- Two dashes end the options. -/
  ended : Bool := false

namespace ArgumentState

/-- All values of an option. -/
def valuesOf (s : ArgumentState) (o : ValueOption) : List String :=
  s.values.flatMap fun (o', vs) => if o' = o then vs else []

/-- The values of an option that is done, judged and kept. -/
def keep (s : ArgumentState) (o : ValueOption) (vs : List String) : Except Stop ArgumentState :=
  let kept := { s with values := s.values ++ [(o, vs)], pending := none }
  match o, vs with
  | _, [] => .error .refused
  | .path, v :: _ =>
    match Path.parse v with
    | .ok p => .ok { kept with path := some p }
    | .error _ => .error .refused
  | .cast, v :: _ =>
    match Tag.ofText v with
    | .ok t => .ok { kept with cast := some t }
    | .error _ => .error .refused
  | _, _ => .ok kept

/-- The state after the option that is taking values is done. -/
def settle (s : ArgumentState) : Except Stop ArgumentState :=
  match s.pending with
  | none => .ok s
  | some p => s.keep p.option p.values

/-- The state at an option, with a value attached to it or without. -/
def atOption (s : ArgumentState) (name : OptionName) (attached : Option String) :
    Except Stop ArgumentState := do
  let s ← s.settle
  match name, attached with
  | .help, none => .error .help
  | .help, some _ => .error .refused
  | .flag _, some _ => .error .refused
  | .flag f, none =>
    if s.flags.contains f then .error .refused else .ok { s with flags := f :: s.flags }
  | .value o, attached =>
    if !o.takesMany && s.values.any (·.1 = o) then .error .refused
    else .ok { s with pending := some ⟨o, attached.toList, attached.isNone⟩ }

/-- The state after a value that stands by itself. -/
def atValue (s : ArgumentState) (v : String) : Except Stop ArgumentState :=
  match s.pending with
  | some p =>
    if p.isOpen then
      .ok { s with
        pending := some { p with values := p.values ++ [v], isOpen := p.option.takesMany } }
    else .error .refused
  | none => .error .refused

/-- An argument with a long name: the name and the value attached behind an equals sign. -/
def splitEquals (cs : List Char) : String × Option String :=
  let name := String.ofList (cs.takeWhile (· != '='))
  match cs.dropWhile (· != '=') with
  | _ :: value => (name, some (String.ofList value))
  | [] => (name, none)

/-- The state after the letters behind a single dash. What follows the letter of an option with
values is its value, an equals sign in front left out. -/
def atLetters (c : CommandName) (s : ArgumentState) : List Char → Except Stop ArgumentState
  | [] => .ok s
  | letter :: rest =>
    match shortOption? c letter with
    | none => .error .refused
    | some (.value o) =>
      match rest with
      | [] => s.atOption (.value o) none
      | '=' :: value => s.atOption (.value o) (some (String.ofList value))
      | value => s.atOption (.value o) (some (String.ofList value))
    | some name =>
      match s.atOption name none with
      | .ok s => atLetters c s rest
      | .error e => .error e

/-- The state after an argument. -/
def step (c : CommandName) (s : ArgumentState) (argument : String) : Except Stop ArgumentState :=
  if s.ended then .error .refused
  else
    match argument.toList with
    | ['-', '-'] => .ok { s with ended := true }
    | '-' :: '-' :: name =>
      let (name, attached) := splitEquals name
      match longOption? c name with
      | some o => s.atOption o attached
      | none => .error .refused
    | '-' :: letter :: rest => s.atLetters c (letter :: rest)
    | _ => s.atValue argument

/-- The request, once all arguments are read. -/
def finish (c : CommandName) (s : ArgumentState) : Except Stop Request := do
  let s ← s.settle
  let settings : InputSettings :=
    ⟨s.flags.contains .ndjson, (s.valuesOf .jsonPointer).head?, s.valuesOf .input⟩
  if settings.inputs.isEmpty then .error .refused
  else
    match c with
    | .get =>
      match s.path with
      | some p => .ok (.get settings p s.cast (s.flags.contains .strict))
      | none => .error .refused
    | .check =>
      let samples := s.valuesOf .like
      if samples.isEmpty then .error .refused
      else
        .ok (.check settings samples (s.flags.contains .allowAdditional) (s.flags.contains .json))

end ArgumentState

/-- The request that the arguments of a command make. -/
def ofArguments (c : CommandName) (arguments : List String) : Except Stop Request := do
  let s ← arguments.foldlM (ArgumentState.step c) {}
  s.finish c

/-- The request that the arguments of the program make. -/
def parse : List String → Except Stop Request
  | "get" :: rest => ofArguments .get rest
  | "check" :: rest => ofArguments .check rest
  | ["help"] | ["help", "get"] | ["help", "check"] | ["help", "help"] => .error .help
  | "-h" :: _ | "--help" :: _ => .error .help
  | _ => .error .refused

end DocShape.Command
