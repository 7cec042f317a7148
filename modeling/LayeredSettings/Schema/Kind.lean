/-
LayeredSettings/Schema/Kind.lean

The kinds of options and what each makes of a value (`Kind.read`).  What comes
out is in the normal form of the kind: a text for texts, secrets, choices and
URLs, an integer, or a boolean; reading it again gives it back.

A number may stand where a text is asked for and a text where a number or a
boolean is; a boolean never counts as text.  An integer of too many digits has no
text, which is a misfit for a secret and for other texts a failure of its own.
-/
import LayeredSettings.Schema.Numeral
import LayeredSettings.Url
import LayeredSettings.Value.Text

namespace LayeredSettings

/-- What an option holds. -/
inductive Kind where
  | text
  | secret
  | url (webOnly : Bool)
  | integer (least : Int) (greatest : Option Int)
  | flag
  | choice (title : String) (names : List String)
  deriving DecidableEq, Inhabited

namespace Kind

-- powers are those of the core library, whatever else is in scope
attribute [local instance (high)] instPowNat

/-! ### Texts -/

/-- The text that a value fills an option of text with; an integer that has none is a misfit of its
own. -/
def readText (overlong : Misfit) (v : Value) : Except Misfit Value :=
  match v with
  | .text s => .ok (.text s)
  | _ =>
      match v.numeral? with
      | some s => .ok (.text s)
      | none => .error (match v with
          | .integer _ => overlong
          | _ => .notText)

/-- One of some names. -/
def readChoice (names : List String) : Value → Except Misfit Value
  | .text s => if names.contains s then .ok (.text s) else .error .notChoice
  | _ => .error .notChoice

/-- The normal form of a URL. -/
def readUrl (webOnly : Bool) : Value → Except Misfit Value
  | .text s =>
      match Url.parse? s with
      | none => .error .unreadableUrl
      | some u =>
          if webOnly && !(["http", "https"].contains (String.ofList u.scheme)) then
            .error .urlScheme
          else .ok (.text u.text)
  | _ => .error .notUrl

/-! ### Numbers -/

/-- Whether an integer fits signed 64 bits. -/
def inWord (n : Int) : Bool := -2 ^ (63 : Nat) ≤ n && n < 2 ^ (63 : Nat)

/-- The integer that a value stands for. -/
def integerOf : Value → Except Misfit Int
  | .integer n => .ok n
  | .boolean b => .ok b.toNat
  | .text s => Numeral.read s
  | .float x =>
      if x.isFinite then
        match x.integer? with
        | some n => if inWord n then .ok n else .error .oversizedInteger
        | none => .error .fractionalInteger
      else .error .notFinite
  | _ => .error .notInteger

/-- An integer within bounds. -/
def readInteger (least : Int) (greatest : Option Int) (v : Value) : Except Misfit Value :=
  match integerOf v with
  | .error m => .error m
  | .ok n =>
      if n < least then .error .belowBound
      else if greatest.any (· < n) then .error .aboveBound
      else .ok (.integer n)

/-- The boolean that an integer stands for. -/
def flagOf (n : Int) : Except Misfit Value :=
  if n = 0 then .ok (.boolean false)
  else if n = 1 then .ok (.boolean true)
  else if inWord n then .error .unreadableBoolean
  else .error .notBoolean

/-- The texts for true. -/
def trueTexts : List String := ["1", "true", "t", "yes", "y", "on"]

/-- The texts for false. -/
def falseTexts : List String := ["0", "false", "f", "no", "n", "off"]

/-- The boolean that a value stands for. -/
def readFlag : Value → Except Misfit Value
  | .boolean b => .ok (.boolean b)
  | .integer n => flagOf n
  | .float x =>
      match x.integer? with
      | some n => flagOf n
      | none => .error .notBoolean
  | .text s =>
      let plain := String.ofList (s.toList.map Text.lowerAscii)
      if trueTexts.contains plain then .ok (.boolean true)
      else if falseTexts.contains plain then .ok (.boolean false)
      else .error .unreadableBoolean
  | _ => .error .notBoolean

/-! ### All kinds -/

/-- What an option makes of a value. -/
def read : Kind → Value → Except Misfit Value
  | .text, v => readText .overlongText v
  | .secret, v => readText .overlongSecret v
  | .url webOnly, v => readUrl webOnly v
  | .integer least greatest, v => readInteger least greatest v
  | .flag, v => readFlag v
  | .choice _ names, v => readChoice names v

/-- The name of the type of an option that is set. -/
def typeName : Kind → String
  | .text => "str"
  | .secret => "SecretStr"
  | .url webOnly => if webOnly then "AnyHttpUrl" else "AnyUrl"
  | .integer _ _ => "int"
  | .flag => "bool"
  | .choice title _ => title

/-- What is shown in place of a secret that is not empty. -/
def mask : String := "**********"

/-- A value as it may be shown. -/
def masked (k : Kind) (v : Value) : Value :=
  match k with
  | .secret => if v = .null ∨ v = .text "" then v else .text mask
  | _ => v

end Kind

end LayeredSettings
