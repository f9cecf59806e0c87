import BcmPlatform.Lib.Strtoul

/-! `NexusPower::NexusGpio`: a pin is configured by a value of `aon_gpio.cfg`, parameters separated by commas in square
    brackets. A string is the list of its bytes, as characters. -/

namespace BcmPlatform.Power
open Lib

abbrev String8 := List Char

namespace String8

/-- `String8::find` of one character. It does not see what is behind a null. -/
def find : String8 → Char → Option Nat
  | [], _ => none
  | x :: s, c => if x = '\x00' then none else if x = c then some 0 else (find s c).map (· + 1)

/-- `String8::operator==` -/
def equals (s : String8) (other : String) : Bool := cString s = other.toList

def toLower (s : String8) : String8 := s.map Char.toLower

/-- `String8(&s[pos], len)` -/
def slice (s : String8) (pos len : Nat) : String8 := (s.drop pos).take len

end String8

inductive NexusGpioMode where
  | input
  | outputPushPull
  | outputOpenDrain
  deriving DecidableEq, Repr

inductive NexusGpioInterrupt where
  | disabled
  | risingEdge
  | fallingEdge
  | edge
  | low
  | high
  deriving DecidableEq, Repr

inductive NexusGpioValue where
  | low
  | high
  deriving DecidableEq, Repr

/-- `KEY_WAKEUP` -/
def keyWakeup : UInt32 := 143

/-! ### Words -/

/-- A function that looks for a word in lower case; `none` is `BAD_VALUE`. -/
def parseWord {α : Type} (words : List (String × α)) (string : String8) : Option α :=
  (words.find? fun p => string.toLower.equals p.1).map (·.2)

def keyWords : List (String × UInt32) := [("none", 0), ("wakeup", keyWakeup)]

def modeWords : List (String × NexusGpioMode) :=
  [("input", .input), ("pushpull", .outputPushPull), ("opendrain", .outputOpenDrain)]

def interruptModeWords : List (String × NexusGpioInterrupt) :=
  [("disabled", .disabled), ("risingedge", .risingEdge), ("fallingedge", .fallingEdge), ("edge", .edge), ("low", .low),
   ("high", .high)]

def outputValueWords : List (String × NexusGpioValue) := [("high", .high), ("low", .low)]

def parseGpioKey : String8 → Option UInt32 := parseWord keyWords

def parseGpioMode : String8 → Option NexusGpioMode := parseWord modeWords

def parseGpioInterruptMode : String8 → Option NexusGpioInterrupt := parseWord interruptModeWords

def parseGpioOutputValue : String8 → Option NexusGpioValue := parseWord outputValueWords

/-! ### Parameters -/

/-- `S0` through `S5`. -/
def maxPowerStates : Nat := 7

def minInpParameters : Nat := 2

def maxInpParameters : Nat := 3

def numOutParameters : Nat := maxPowerStates + 1

def minParameters : Nat := minInpParameters

def maxParameters : Nat := numOutParameters

/-- The loop of `parseGpioParameters` from `absStartPos` on: what it stores at `parameters[numPars]` and behind. The bound on
    `numPars` in its condition is the left operand of a comma. -/
def storeParameters (charString : String8) (absEndBracketPos absStartPos : Nat) : List String8 :=
  if absStartPos < absEndBracketPos then
    match String8.find (charString.drop absStartPos) ',' with
    | none => [charString.slice absStartPos (absEndBracketPos - absStartPos)]
    | some relCommaPos =>
      charString.slice absStartPos relCommaPos ::
        storeParameters charString absEndBracketPos (absStartPos + (relCommaPos + 1))
  else []
  termination_by absEndBracketPos - absStartPos

/-- What `parseGpioParameters` stores, the first at `parameters[0]`, and `*pNumParameters`; `none` is `BAD_VALUE`. -/
structure ParsedParameters where
  stored : List String8 := []
  numParameters : Option Nat := none
  deriving DecidableEq, Repr

/-- `parseGpioParameters`; `"[a,b]"` is the minimum length. -/
def parseGpioParameters (inString : String8) : ParsedParameters :=
  if inString.length < 5 then {}
  else if inString.find '[' ≠ some 0 then {}
  else if inString.find ']' ≠ some (inString.length - 1) then {}
  else
    let stored := storeParameters inString (inString.length - 1) 1
    { stored, numParameters := if stored.length ≤ 1 then none else some stored.length }

/-! ### Pins -/

/-- What `initialise` is called with besides the value. -/
structure PinName where
  gpioName : String8 := []
  pin : Nat := 0
  /-- `NEXUS_GpioType_eAonStandard` and the others. -/
  pinType : Nat := 0
  deriving DecidableEq, Repr

/-- `NexusGpio`, from its two constructors. -/
inductive NexusGpio where
  | input (name : PinName) (pinMode : NexusGpioMode) (pinInterruptMode : NexusGpioInterrupt) (key : UInt32)
  | output (name : PinName) (pinMode : NexusGpioMode) (pinOutputValues : List NexusGpioValue)
  deriving DecidableEq, Repr

/-- The fields of `NEXUS_GpioSettings` that `instantiate` sets; `none` is the default. -/
structure NexusGpioSettings where
  mode : NexusGpioMode
  value : Option NexusGpioValue := none
  interruptMode : Option NexusGpioInterrupt := none
  maskEdgeInterrupts : Option Bool := none
  callbackParam : Option Nat := none
  deriving DecidableEq, Repr

section
-- whether `NEXUS_Gpio_Open` gives a handle
variable (gpioOpen : PinName → NexusGpioSettings → Bool)

/-- `instantiate`, of an input -/
def instantiateInput (name : PinName) (pinMode : NexusGpioMode) (pinInterruptMode : NexusGpioInterrupt) (key : UInt32) :
    Option NexusGpio :=
  let settings :=
    { mode := pinMode, interruptMode := some pinInterruptMode, maskEdgeInterrupts := some true, callbackParam := some name.pin }
  if gpioOpen name settings then some (.input name pinMode pinInterruptMode key) else none

/-- `instantiate`, of an output -/
def instantiateOutput (name : PinName) (pinMode : NexusGpioMode) (pinOutputValues : List NexusGpioValue) : Option NexusGpio :=
  let settings := { mode := pinMode, value := pinOutputValues[0]? }
  if gpioOpen name settings then some (.output name pinMode pinOutputValues) else none

/-- The branch of `initialise` for an input. Its `key` has no initial value, and is `stackKey` until it is assigned. -/
def initialiseInput (name : PinName) (stackKey : UInt32) (gpioParameters : List String8) : Option NexusGpio := do
  if gpioParameters.length < minInpParameters ∨ maxInpParameters < gpioParameters.length then none
  else
    let gpioInterruptMode ← parseGpioInterruptMode (gpioParameters[1]?.getD [])
    let key ←
      if minInpParameters < gpioParameters.length then parseGpioKey (gpioParameters[2]?.getD []) else some stackKey
    instantiateInput gpioOpen name .input gpioInterruptMode key

/-- The branch of `initialise` for an output. -/
def initialiseOutput (name : PinName) (gpioMode : NexusGpioMode) (gpioParameters : List String8) : Option NexusGpio := do
  if gpioParameters.length ≠ numOutParameters then none
  else
    let gpioOutputValues ←
      (List.range maxPowerStates).mapM fun cnt => parseGpioOutputValue (gpioParameters[cnt + 1]?.getD [])
    instantiateOutput gpioOpen name gpioMode gpioOutputValues

/-- `initialise`; `none` is a `NULL` pin. -/
def initialise (name : PinName) (stackKey : UInt32) (gpioValue : String8) : Option NexusGpio := do
  let parsed := parseGpioParameters gpioValue
  let numGpioParameters ← parsed.numParameters
  if numGpioParameters < minParameters ∨ maxParameters < numGpioParameters then none
  else
    match ← parseGpioMode (parsed.stored[0]?.getD []) with
    | .input => initialiseInput gpioOpen name stackKey parsed.stored
    | gpioMode => initialiseOutput gpioOpen name gpioMode parsed.stored

end
end BcmPlatform.Power
