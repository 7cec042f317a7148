/-
LayeredSettings/Value/Text.lean

Values as a person reads them.  `Value.display` is the text of a cell in a
listing: a dash for nothing, `true` and `false`, texts as they are.
`Value.literal` is the text of a value inside an array or a table, where texts
are quoted, and `numeral?` is the text that a number turns into when an option
asks for text, which an integer of too many digits does not.
-/
import LayeredSettings.Value
import LayeredSettings.Binary64.Shortest
import LayeredSettings.Text.Quoted

namespace LayeredSettings

open Calendar

/-- The decimal text of an integer. -/
def integerText (n : Int) : String :=
  String.ofList (if n < 0 then '-' :: Nat.toDigits 10 n.natAbs else Nat.toDigits 10 n.natAbs)

/-- The longest integer that fills an option of text, in digits. -/
def numeralLimit : Nat := 4300

/-- Whether an integer has more digits than fill an option of text. -/
def isOverlong (n : Int) : Bool := numeralLimit < (Nat.toDigits 10 n.natAbs).length

/-- The text of a number that fills an option of text. -/
def Value.numeral? : Value → Option String
  | .integer n => if isOverlong n then none else some (integerText n)
  | .float x => some x.text
  | _ => none

/-! ### Calendar values inside a container -/

/-- The numbers of a time of day; microseconds and seconds that are zero are left out. -/
def timeNumbers (t : TimeOfDay) : List Nat :=
  [t.hour, t.minute] ++
    (if t.microsecond = 0 then (if t.second = 0 then [] else [t.second])
     else [t.second, t.microsecond])

/-- The zone of an offset in minutes, as whole days and seconds of a day. -/
def zoneLiteral (minutes : Int) : String :=
  if minutes = 0 then "datetime.timezone.utc"
  else
    let days := Int.fdiv minutes 1440
    let seconds := integerText (Int.fmod minutes 1440 * 60)
    let span := if days = 0 then "seconds=" ++ seconds
      else "days=" ++ integerText days ++ (if seconds = "0" then "" else ", seconds=" ++ seconds)
    "datetime.timezone(datetime.timedelta(" ++ span ++ "))"

/-- Natural numbers with commas between them. -/
def numberList (ns : List Nat) : String := ", ".intercalate (ns.map fun n : Nat => integerText n)

/-- A day inside a container. -/
def dateLiteral (d : Date) : String :=
  "datetime.date(" ++ numberList [d.year, d.month, d.day] ++ ")"

/-- A time of day inside a container. -/
def timeLiteral (t : TimeOfDay) : String := "datetime.time(" ++ numberList (timeNumbers t) ++ ")"

/-- A moment inside a container. -/
def momentLiteral (m : Moment) : String :=
  "datetime.datetime(" ++
    numberList ([m.date.year, m.date.month, m.date.day] ++ timeNumbers m.time) ++
    (match m.offset with
     | none => ""
     | some minutes => ", tzinfo=" ++ zoneLiteral minutes) ++ ")"

/-! ### Values -/

mutual

/-- The text of a value inside an array or a table. -/
def Value.literal : Value → String
  | .null => "None"
  | .boolean b => if b then "True" else "False"
  | .integer n => integerText n
  | .float x => x.text
  | .text s => Text.quoted s
  | .moment m => momentLiteral m
  | .date d => dateLiteral d
  | .time t => timeLiteral t
  | .array items => "[" ++ ", ".intercalate (Value.itemLiterals items) ++ "]"
  | .table entries => "\x7b" ++ ", ".intercalate (Value.entryLiterals entries) ++ "\x7d"

/-- The texts of the items of an array. -/
def Value.itemLiterals : List Value → List String
  | [] => []
  | v :: rest => Value.literal v :: Value.itemLiterals rest

/-- The texts of the entries of a table. -/
def Value.entryLiterals : List (String × Value) → List String
  | [] => []
  | (k, v) :: rest => (Text.quoted k ++ ": " ++ Value.literal v) :: Value.entryLiterals rest

end

/-- The text of a value in a listing. -/
def Value.display : Value → String
  | .null => "-"
  | .boolean b => if b then "true" else "false"
  | .text s => s
  | .moment m => m.textWith " "
  | .date d => d.text
  | .time t => t.text
  | v => v.literal

end LayeredSettings
