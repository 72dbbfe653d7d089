import RecordSmith.CommandLine.Usage
import RecordSmith.Text.Alphanumeric

/-!
# Arguments

Reading the arguments of a command.  Every argument is first told apart by itself: options start
with a dash and may be shortened to a start that no other option has, `--` ends the options, and the
rest are operands.  Then options take their values, and what is left over is kept apart.
-/

namespace RecordSmith.CommandLine

/-- An option of a command, by its names. -/
structure OptionSpec (κ : Type) where
  names : List Text
  takesValue : Bool
  meaning : κ

/-- A value written in the argument of its option: after an equals sign, or joined to the name. -/
structure Attached where
  value : Text
  joined : Bool
  deriving Repr, DecidableEq

/-- What an argument is by itself. -/
inductive Token (κ : Type) where
  | operand
  | delimiter
  | option (spec : OptionSpec κ) (name : Text) (attached : Option Attached)
  | unknown

/-- The character that options start with. -/
def dash : CodePoint := '-'.toNat

/-- The argument that ends the options. -/
def delimiter : Text := [dash, dash]

/-- The character before an attached value. -/
def equals : CodePoint := '='.toNat

/-- A sequence of at least one decimal digit. -/
def isDigits (t : Text) : Bool := !t.isEmpty && t.all Text.isDecimal

/-- The argument is a negative number, whole or with a decimal point.  A line feed at its end does
not matter. -/
def isNegativeNumber (argument : Text) : Bool :=
  match (if argument.getLast? == some 0x0A then argument.dropLast else argument) with
  | [] => false
  | c :: number =>
    c == dash && (isDigits number ||
      match Text.splitFirst? '.'.toNat number with
      | none => false
      | some (whole, fraction) => whole.all Text.isDecimal && isDigits fraction)

variable {κ : Type}

/-- The option with exactly this name. -/
def named? (specs : List (OptionSpec κ)) (name : Text) : Option (OptionSpec κ) :=
  specs.find? (·.names.contains name)

/-- Every name with its option, in the order in which options are listed. -/
def namedSpecs (specs : List (OptionSpec κ)) : List (OptionSpec κ × Text) :=
  specs.flatMap fun spec => spec.names.map fun name => (spec, name)

/-- The options that an argument with two dashes can be short for. -/
def longCandidates (specs : List (OptionSpec κ)) (argument : Text) :
    List (OptionSpec κ × Text × Option Attached) :=
  let (start, attached) : Text × Option Attached :=
    match Text.splitFirst? equals argument with
    | some (start, value) => (start, some ⟨value, false⟩)
    | none => (argument, none)
  ((namedSpecs specs).filter fun named => start.isPrefixOf named.2).map fun (spec, name) =>
    (spec, name, attached)

/-- The options of one letter that an argument with one dash starts with. -/
def shortCandidates (specs : List (OptionSpec κ)) (argument : Text) :
    List (OptionSpec κ × Text × Option Attached) :=
  ((namedSpecs specs).filter fun named => named.2 == argument.take 2).map fun (spec, name) =>
    (spec, name, some ⟨argument.drop 2, true⟩)

/-- The options that an argument can be short for. -/
def candidates (specs : List (OptionSpec κ)) (argument : Text) :
    List (OptionSpec κ × Text × Option Attached) :=
  if delimiter.isPrefixOf argument then longCandidates specs argument
  else shortCandidates specs argument

/-- The option before an equals sign. -/
def beforeEquals? (specs : List (OptionSpec κ)) (argument : Text) : Option (Token κ) := do
  let (name, value) ← Text.splitFirst? equals argument
  let spec ← named? specs name
  return .option spec name (some ⟨value, false⟩)

/-- What an argument is by itself, if it starts with a dash, is no name of an option and has no such
name before an equals sign. -/
def classifyRest (specs : List (OptionSpec κ)) (argument : Text) :
    Except ArgumentError (Token κ) :=
  match candidates specs argument with
  | [(spec, name, attached)] => .ok (.option spec name attached)
  | [] =>
    .ok (if isNegativeNumber argument || argument.contains 0x20 then .operand else .unknown)
  | several => .error (.ambiguous argument (several.map fun candidate => candidate.2.1))

/-- What an argument is by itself. -/
def classify (specs : List (OptionSpec κ)) (argument : Text) : Except ArgumentError (Token κ) :=
  if argument.head? != some dash then .ok .operand
  else
    match named? specs argument with
    | some spec => .ok (.option spec argument none)
    | none =>
      if argument == [dash] then .ok .operand
      else
        match beforeEquals? specs argument with
        | some token => .ok token
        | none => classifyRest specs argument

/-- What each argument is by itself; after the delimiter all are operands. -/
def classifyAll (specs : List (OptionSpec κ)) :
    List Text → Except ArgumentError (List (Text × Token κ))
  | [] => .ok []
  | argument :: rest => do
    if argument == delimiter then
      return (argument, .delimiter) :: rest.map fun operand => (operand, .operand)
    let token ← classify specs argument
    return (argument, token) :: (← classifyAll specs rest)

/-- A step that the arguments of a command ask for. -/
inductive Item (κ : Type) where
  | switch (spec : OptionSpec κ)
  | setting (spec : OptionSpec κ) (value : Text)
  | operands (arguments : List Text)
  | stray (argument : Text)
  | faulty (error : ArgumentError)

/-- What an argument that starts with an option asks for, and whether the next argument is the value
of that option. -/
structure OptionReading (κ : Type) where
  items : List (Item κ)
  takesNext : Bool := false

/-- Reads an option without an attached value, after others in the same argument. -/
def readBare (before : List (Item κ)) (next? : Option Text) (spec : OptionSpec κ) :
    OptionReading κ :=
  if !spec.takesValue then { items := before ++ [.switch spec] }
  else
    match next? with
    | some value => { items := before ++ [.setting spec value], takesNext := true }
    | none => { items := [.faulty (.valueMissing spec.names)] }

/-- Reads an option with an attached text, after others in the same argument.  What is joined to an
option of one letter without value are further such options. -/
def readAttached (specs : List (OptionSpec κ)) (next? : Option Text) (isShort : Bool) :
    (before : List (Item κ)) → (spec : OptionSpec κ) → (joined : Bool) → Text → OptionReading κ
  | before, spec, joined, t =>
    if spec.takesValue then { items := before ++ [.setting spec t] }
    else
      match t with
      | [] => { items := [.faulty (.valueNotTaken spec.names [])] }
      | c :: more =>
        if !isShort || !joined || c == dash then
          { items := [.faulty (.valueNotTaken spec.names (c :: more))] }
        else
          let before := before ++ [.switch spec]
          match named? specs [dash, c] with
          | none => { items := before ++ [.stray (dash :: c :: more)] }
          | some spec =>
            match more with
            | [] => readBare before next? spec
            | d :: value =>
              if d == equals then readAttached specs next? isShort before spec false value
              else readAttached specs next? isShort before spec true (d :: value)

/-- Reads an argument that starts with an option. -/
def readOption (specs : List (OptionSpec κ)) (next? : Option Text) (spec : OptionSpec κ)
    (name : Text) (attached : Option Attached) : OptionReading κ :=
  match attached with
  | none => readBare [] next? spec
  | some attached =>
    readAttached specs next? (!delimiter.isPrefixOf name) [] spec attached.joined attached.value

/-- The argument that can be a value of the option before it. -/
def nextOperand? : List (Text × Token κ) → Option Text
  | (argument, .operand) :: _ => some argument
  | _ => none

/-- How far the operands of a command have been read: they stand in one row. -/
inductive OperandPhase where
  | before
  | within
  | after
  deriving Repr, DecidableEq

/-- The phase after an argument that is no operand. -/
def OperandPhase.interrupt : OperandPhase → OperandPhase
  | before => before
  | _ => after

/-- The items of a command with operands: those in the first row belong to it, later ones are
strays.  `taken` says that the first argument has been read as a value. -/
def items (specs : List (OptionSpec κ)) : OperandPhase → (taken : Bool) →
    List (Text × Token κ) → List (Item κ)
  | _, _, [] => []
  | phase, true, _ :: rest => items specs phase false rest
  | phase, false, (argument, .operand) :: rest =>
    if phase == .after then .stray argument :: items specs phase false rest
    else .operands [argument] :: items specs .within false rest
  | phase, false, (argument, .delimiter) :: rest =>
    if phase == .after then .stray argument :: items specs phase false rest
    else items specs .within false rest
  | phase, false, (argument, .unknown) :: rest =>
    .stray argument :: items specs phase.interrupt false rest
  | phase, false, (_, .option spec name attached) :: rest =>
    let reading := readOption specs (nextOperand? rest) spec name attached
    reading.items ++ items specs phase.interrupt reading.takesNext rest

/-- The items of a command with a subcommand: the first operand and all after it belong to that. -/
def itemsBefore (specs : List (OptionSpec κ)) : (taken : Bool) →
    List (Text × Token κ) → List (Item κ)
  | _, [] => []
  | true, _ :: rest => itemsBefore specs false rest
  | false, (argument, .operand) :: rest => [.operands (argument :: rest.map Prod.fst)]
  | false, (argument, .delimiter) :: rest =>
    if rest.isEmpty then [.stray argument] else [.operands (argument :: rest.map Prod.fst)]
  | false, (argument, .unknown) :: rest => .stray argument :: itemsBefore specs false rest
  | false, (_, .option spec name attached) :: rest =>
    let reading := readOption specs (nextOperand? rest) spec name attached
    reading.items ++ itemsBefore specs reading.takesNext rest

end RecordSmith.CommandLine
