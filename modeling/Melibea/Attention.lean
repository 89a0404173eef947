import Melibea.Library.Decimal

/-! Width selection for focus transitions. -/

namespace Melibea

open Library

structure Proportion where
  value : Binary64
  valid : value.isFinite && Binary64.zero.lt value && value.le Binary64.one
  deriving DecidableEq

-- The doubles closest to 0.5 and 0.1.
def Proportion.half : Proportion := ⟨.ofUnits false (2 ^ 1073), by decide +kernel⟩

def Proportion.tenth : Proportion :=
  ⟨.ofUnits false (3602879701896397 * 2 ^ 1019), by decide +kernel⟩

inductive WidthPolicy
  | proportion (width : Proportion)
  | preserve
  deriving DecidableEq

structure InvalidProportion where
  value : Binary64
  deriving DecidableEq

def WidthPolicy.fromProportion (value : Binary64) : Except InvalidProportion WidthPolicy :=
  if valid : value.isFinite && Binary64.zero.lt value && value.le Binary64.one then
    .ok (.proportion ⟨value, valid⟩)
  else .error ⟨value⟩

def InvalidProportion.display (self : InvalidProportion) : String :=
  s!"proportion must be finite and greater than 0 through 1, got {Decimal.display self.value}"

inductive WidthParseError
  | invalidNumber (value : String)
  | invalidProportion (error : InvalidProportion)
  deriving DecidableEq

def WidthParseError.display : WidthParseError → String
  | .invalidNumber value =>
    "expected `preserve`, a proportion such as `0.5`, or a percentage such as `50%`; got " ++
      s!"`{value}`"
  | .invalidProportion error => error.display

def parseNumber (value : List Char) (original : String) : Except WidthParseError Binary64 :=
  match Decimal.parse value with
  | some number => .ok number
  | none => .error (.invalidNumber original)

def WidthPolicy.fromStr (input : String) : Except WidthParseError WidthPolicy :=
  let value := Decimal.trim input.toList
  if value = "preserve".toList then .ok .preserve
  else do
    let proportion ←
      match Decimal.stripSuffix value '%' with
      | some percent => (parseNumber percent input).map (·.div .hundred)
      | none => parseNumber value input
    (fromProportion proportion).mapError .invalidProportion

structure AttentionPolicy where
  focused : WidthPolicy
  unfocused : WidthPolicy
  deriving DecidableEq

def AttentionPolicy.widthFor (self : AttentionPolicy) (focused : Bool) : WidthPolicy :=
  if focused then self.focused else self.unfocused

end Melibea
