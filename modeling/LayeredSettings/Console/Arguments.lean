/-
LayeredSettings/Console/Arguments.lean

The arguments of a command: switches, the values that belong to them, and the
rest.

* A long switch starts with two hyphens; its value follows as the next argument
  or behind an equals sign.
* Short switches are single letters behind one hyphen and may be written
  together; the first one that takes a value takes what is behind it, or else
  the next argument.
* Two hyphens alone end the switches, and a single hyphen is no switch.

`scan` reads them from left to right.  It gives `none` for an unknown switch, for
a switch whose value is missing, and for a value that no switch asked for.
-/
import LayeredSettings.Text.Pieces

namespace LayeredSettings

namespace Console

/-- A switch of a command: its long name, its letter, and whether it takes a value. -/
structure Switch where
  name : String
  letter : Option Char
  takesValue : Bool
  deriving DecidableEq, Inhabited

/-- A switch that was given, by its long name. -/
structure Given where
  name : String
  value : Option String
  deriving DecidableEq, Inhabited

/-- The switches that were given, in order, and the other arguments. -/
structure Arguments where
  given : List Given
  rest : List String
  deriving DecidableEq, Inhabited

namespace Arguments

/-- No arguments. -/
def none : Arguments := ⟨[], []⟩

/-- The arguments behind some switches. -/
def behind (switches : List Given) (a : Arguments) : Arguments :=
  { a with given := switches ++ a.given }

/-- The arguments behind one that is no switch. -/
def behindOther (argument : String) (a : Arguments) : Arguments :=
  { a with rest := argument :: a.rest }

/-- Whether a switch was given. -/
def has (a : Arguments) (name : String) : Bool := a.given.any fun g => g.name == name

/-- The value of a switch: the last one given. -/
def value? (a : Arguments) (name : String) : Option String :=
  (a.given.reverse.find? fun g => g.name == name).bind (·.value)

end Arguments

/-! ### One argument -/

/-- The switches in one argument; the last of them may be waiting for its value. -/
structure Recognised where
  given : List Given
  waiting : Option String

/-- Short switches written together. -/
def letters? (switches : List Switch) : List Char → Option Recognised
  | [] => some ⟨[], none⟩
  | c :: rest =>
      match switches.find? fun s => s.letter == some c with
      | none => none
      | some s =>
          if s.takesValue then
            if rest.isEmpty then some ⟨[], some s.name⟩
            else some ⟨[⟨s.name, some (String.ofList rest)⟩], none⟩
          else (letters? switches rest).map fun r => { r with given := ⟨s.name, none⟩ :: r.given }

/-- A name and, behind the first equals sign, its value. -/
def nameAndValue (argument : List Char) : String × Option String :=
  match Text.pieces ['='] argument with
  | name :: value :: more =>
      (String.ofList name, some (String.ofList (Text.joined ['='] (value :: more))))
  | _ => (String.ofList argument, none)

/-- The switches in an argument that starts with a hyphen. -/
def recognise? (switches : List Switch) (argument : List Char) : Option Recognised :=
  let (name, value) := nameAndValue argument
  match switches.find? fun s => s.name == name with
  | some s =>
      match s.takesValue, value with
      | true, some v => some ⟨[⟨s.name, some v⟩], none⟩
      | true, none => some ⟨[], some s.name⟩
      | false, none => some ⟨[⟨s.name, none⟩], none⟩
      | false, some _ => none
  | none =>
      match argument with
      | '-' :: '-' :: _ => none
      | _ => letters? switches (argument.drop 1)

/-! ### All arguments -/

/-- Whether an argument holds switches. -/
def holdsSwitches : List Char → Bool
  | '-' :: _ :: _ => true
  | _ => false

/-- The arguments of a command.  Where others may not stand between switches, the first of them
ends the switches. -/
def scan (switches : List Switch) (mixed : Bool) : List String → Option Arguments
  | [] => some Arguments.none
  | argument :: rest =>
      if argument = "--" then some ⟨[], rest⟩
      else if holdsSwitches argument.toList then
        match recognise? switches argument.toList with
        | none => none
        | some ⟨given, none⟩ => (scan switches mixed rest).map (Arguments.behind given)
        | some ⟨given, some name⟩ =>
            match rest with
            | [] => none
            | value :: others =>
                (scan switches mixed others).map
                  (Arguments.behind (given ++ [⟨name, some value⟩]))
      else if mixed then (scan switches mixed rest).map (Arguments.behindOther argument)
      else some ⟨[], argument :: rest⟩

end Console

end LayeredSettings
