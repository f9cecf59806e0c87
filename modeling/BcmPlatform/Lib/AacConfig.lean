import BcmPlatform.Lib.Bytes

/-! The AudioSpecificConfig of an AAC stream, as the standard lays out its bits, and the header of an ADTS frame as a decoder
    reads it. -/

namespace BcmPlatform.Lib

/-- A sampling frequency: index 15 is followed by the frequency itself. -/
structure SamplingRate where
  index : Nat
  frequency : Nat := 0
  deriving DecidableEq, Repr

namespace SamplingRate

def bits (r : SamplingRate) : List Bool := toBits 4 r.index ++ if r.index = 15 then toBits 24 r.frequency else []

/-- The frequencies of the indices 0 to 12. -/
def table : List Nat := [96000, 88200, 64000, 48000, 44100, 32000, 24000, 22050, 16000, 12000, 11025, 8000, 7350]

end SamplingRate

/-- What follows an extension flag in `GASpecificConfig`. -/
structure GaExtension where
  numOfSubFrame : Nat := 0
  layerLength : Nat := 0
  resilienceFlags : Nat := 0
  extensionFlag3 : Bool := false
  deriving DecidableEq, Repr

/-- `GASpecificConfig`, for channel configurations other than 0. -/
structure GaSpecificConfig where
  frameLengthFlag : Bool := false
  coreCoderDelay : Option Nat := none
  layerNr : Nat := 0
  extension : Option GaExtension := none
  deriving DecidableEq, Repr

namespace GaSpecificConfig

def extensionBits (objectType : Nat) (e : GaExtension) : List Bool :=
  (if objectType = 22 then toBits 5 e.numOfSubFrame ++ toBits 11 e.layerLength
    else if objectType ∈ [17, 19, 20, 23] then toBits 3 e.resilienceFlags else []) ++ [e.extensionFlag3]

def bits (objectType : Nat) (g : GaSpecificConfig) : List Bool :=
  [g.frameLengthFlag] ++
  (match g.coreCoderDelay with
    | none => [false]
    | some delay => true :: toBits 14 delay) ++
  [g.extension.isSome] ++
  (if objectType = 6 ∨ objectType = 20 then toBits 3 g.layerNr else []) ++
  g.extension.elim [] (extensionBits objectType)

end GaSpecificConfig

/-- How a config signals SBR: not at all, with object type 5 in front of the core's, or behind the config of the core, where
    the flag can also say that there is none. -/
inductive SbrSignal where
  | none
  | explicit (rate : SamplingRate)
  | backward (rate : Option SamplingRate)
  deriving DecidableEq, Repr

/-- An AudioSpecificConfig with the bits that follow it. The error protection config is not laid out further. -/
structure AudioSpecificConfig where
  objectType : Nat
  samplingFrequencyIndex : Nat
  channelConfiguration : Nat
  ga : GaSpecificConfig := {}
  epConfig : Nat := 0
  errorProtection : List Bool := []
  directMapping : Bool := false
  sbr : SbrSignal := .none
  trailing : List Bool := []
  deriving DecidableEq, Repr

namespace AudioSpecificConfig

def epBits (a : AudioSpecificConfig) : List Bool :=
  if 17 ≤ a.objectType then
    toBits 2 a.epConfig ++ (if 2 ≤ a.epConfig then a.errorProtection else []) ++ if a.epConfig = 3 then [a.directMapping] else []
  else []

/-- The bits behind the object types. -/
def specificBits (a : AudioSpecificConfig) : List Bool := a.ga.bits a.objectType ++ a.epBits

def sbrPresent (a : AudioSpecificConfig) : Bool :=
  match a.sbr with
  | .none | .backward none => false
  | .explicit _ | .backward (some _) => true

/-- The sampling rate of the SBR extension. -/
def sbrRate (a : AudioSpecificConfig) : Option SamplingRate :=
  match a.sbr with
  | .none => none
  | .explicit rate => some rate
  | .backward rate => rate

def bits (a : AudioSpecificConfig) : List Bool :=
  match a.sbr with
  | .none =>
    toBits 5 a.objectType ++ toBits 4 a.samplingFrequencyIndex ++ toBits 4 a.channelConfiguration ++ a.specificBits ++ a.trailing
  | .explicit rate =>
    toBits 5 5 ++ toBits 4 a.samplingFrequencyIndex ++ toBits 4 a.channelConfiguration ++ rate.bits ++ toBits 5 a.objectType ++
      a.specificBits ++ a.trailing
  | .backward rate =>
    toBits 5 a.objectType ++ toBits 4 a.samplingFrequencyIndex ++ toBits 4 a.channelConfiguration ++ a.specificBits ++
      toBits 11 0x2b7 ++ toBits 5 5 ++ [rate.isSome] ++
      (match rate with
        | none => []
        | some rate => rate.bits) ++ a.trailing

/-- There is no SBR extension in bits that follow a config: a decoder looks for one if there are 16 bits or more. -/
def NoSbrExtension (bits : List Bool) : Prop :=
  bits.length < 16 ∨ bitsValue (bits.take 11) ≠ 0x2b7 ∨ bitsValue ((bits.drop 11).take 5) ≠ 5

instance (bits : List Bool) : Decidable (NoSbrExtension bits) := inferInstanceAs (Decidable (_ ∨ _ ∨ _))

/-- The object types of general audio coding that come without a program config, the fields within their sizes, and an
    extension only where it is signalled. -/
structure Valid (a : AudioSpecificConfig) : Prop where
  objectType : a.objectType ∈ [1, 2, 3, 4, 6, 17, 19, 20, 22, 23]
  explicit : ∀ rate, a.sbr = .explicit rate → a.objectType ≤ 4
  samplingFrequencyIndex : a.samplingFrequencyIndex < 15
  channelConfiguration : 1 ≤ a.channelConfiguration ∧ a.channelConfiguration ≤ 7
  epConfig : a.epConfig < 4
  rate : ∀ rate, a.sbrRate = some rate → rate.index < 16
  trailing : a.sbr = .none → NoSbrExtension a.trailing

end AudioSpecificConfig

/-! ### ADTS -/

/-- The fields of an ADTS header. -/
structure AdtsHeader where
  syncword : Nat
  protectionAbsent : Nat
  profile : Nat
  samplingFrequencyIndex : Nat
  channelConfiguration : Nat
  frameLength : Nat
  numberOfRawDataBlocks : Nat
  deriving DecidableEq, Repr

/-- The seven bytes of a header without a check sum. -/
def readAdtsHeader (bytes : List UInt8) : AdtsHeader :=
  let v := beValue bytes
  { syncword := bitField 55 44 v
    protectionAbsent := bitField 40 40 v
    profile := bitField 39 38 v
    samplingFrequencyIndex := bitField 37 34 v
    channelConfiguration := bitField 32 30 v
    frameLength := bitField 25 13 v
    numberOfRawDataBlocks := bitField 1 0 v }

end BcmPlatform.Lib
