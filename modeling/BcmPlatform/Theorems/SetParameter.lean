import BcmPlatform.Bomx.SetParameter
import BcmPlatform.Bomx.VideoStep
import BcmPlatform.Theorems.PesRoom

/-! A failed `SetParameter` of a port definition. The definition is stored before it is checked against the decoder's
    limits, and an error of these checks does not bring the old one back. -/

namespace BcmPlatform.Bomx

namespace ParameterState
variable {s s' : ParameterState} {p : PortParameter}

/-! ### The checks -/

/-- The definition passes the checks before the base class stores it. -/
def checked (p : PortParameter) (s : ParameterState) : Bool :=
  p.sizeValid && p.versionValid &&
    (p.definition.nPortIndex = 0 && p.format.cMIMEType = .input && p.format.eCompressionFormat = some s.d.codec ||
      p.definition.nPortIndex = 1 && p.format.cMIMEType = .output)

/-- The frame is larger than the decoder's maximum, or there is no memory for two input buffers of this size. -/
def exceedsLimits (p : PortParameter) (s : ParameterState) : Bool :=
  p.definition.nPortIndex = 1 &&
      (s.maxDecoderWidth < p.definition.nFrameWidth || s.maxDecoderHeight < p.definition.nFrameHeight) ||
    p.definition.nPortIndex = 0 && dataBufferSizeHighres * numInputBuffers < 2 * p.definition.nBufferSize

/-- The port has this definition, apart from the fields that cannot be set. -/
def alreadyStored (p : PortParameter) (s : ParameterState) : Bool :=
  if p.definition.nPortIndex = 0 then
    (s.d.inp.port.setDefinition p.definition).definition = s.d.inp.port.definition && p.format = s.inputFormat
  else
    (s.d.out.port.setDefinition p.definition).definition = s.d.out.port.definition && p.format = s.outputFormat

/-- What an error has to leave alone. -/
structure Unchanged (s s' : ParameterState) : Prop where
  inputDefinition : s'.d.inp.port.definition = s.d.inp.port.definition
  inputFormat : s'.inputFormat = s.inputFormat
  outputDefinition : s'.d.out.port.definition = s.d.out.port.definition
  outputFormat : s'.outputFormat = s.outputFormat
  outputWidth : s'.d.out.outputWidth = s.d.out.outputWidth
  outputHeight : s'.d.out.outputHeight = s.d.out.outputHeight
  maxDescriptorsPerBuffer : s'.d.inp.maxDescriptorsPerBuffer = s.d.inp.maxDescriptorsPerBuffer

/-- The size and the number of the input buffers fit together, and the descriptors are made for the size. -/
structure InputSized (s : ParameterState) : Prop where
  nBufferSize : dataBufferSizeDefault ≤ s.d.inp.port.definition.nBufferSize
  nBufferCountActual : dataBufferSizeHighres < s.d.inp.port.definition.nBufferSize →
    2 ≤ s.d.inp.port.definition.nBufferCountActual
  maxDescriptorsPerBuffer :
    s.d.inp.maxDescriptorsPerBuffer = Bomx.maxDescriptorsPerBuffer s.d.inp.port.definition.nBufferSize

/-- `SetParameter` is atomic: an error changes nothing, and success on the input port leaves sizes that fit. -/
structure Atomic (p : PortParameter) (s : ParameterState) : Prop where
  error : (s.setPortDefinition p).2 ≠ .none → Unchanged s (s.setPortDefinition p).1
  success : (s.setPortDefinition p).2 = .none → p.definition.nPortIndex = 0 → InputSized (s.setPortDefinition p).1

/-! ### The exits -/

theorem checked_iff : s.checked p = true ↔
    p.sizeValid = true ∧ p.versionValid = true ∧
      (p.definition.nPortIndex = 0 ∧ p.format.cMIMEType = .input ∧ p.format.eCompressionFormat = some s.d.codec ∨
        p.definition.nPortIndex = 1 ∧ p.format.cMIMEType = .output) := by
  simp [checked, and_assoc]

theorem hcodec_of_checked (h : s.checked p = true) (hindex : p.definition.nPortIndex = 0) :
    p.format.eCompressionFormat = some s.d.codec := by
  obtain ⟨-, -, ⟨-, -, hcodec⟩ | ⟨hone, -⟩⟩ := checked_iff.mp h
  · exact hcodec
  · omega

theorem setPortDefinition_cases (p : PortParameter) (s : ParameterState) :
    (∃ h : s.checked p = true, s.setPortDefinition p =
      if p.definition.nPortIndex = 1 then (s.storeDefinition p (hcodec_of_checked h)).verifyOutputPort
      else (s.storeDefinition p (hcodec_of_checked h)).verifyInputPort) ∨
    s.checked p = false ∧ ∃ err ≠ OmxError.none, s.setPortDefinition p = (s, err) := by
  have hrefused : ∀ err : OmxError, err ≠ .none → s.setPortDefinition p = (s, err) →
      ¬(s.checked p = true) → s.checked p = false ∧ ∃ err ≠ OmxError.none, s.setPortDefinition p = (s, err) :=
    fun err herr heq hchecked => ⟨Bool.eq_false_iff.mpr hchecked, err, herr, heq⟩
  simp only [checked_iff] at hrefused
  by_cases hsize : p.sizeValid = true
  case neg => exact .inr (hrefused .badParameter OmxError.noConfusion (by simp [setPortDefinition, hsize]) (by simp [hsize]))
  by_cases hversion : p.versionValid = true
  case neg =>
    exact .inr (hrefused .versionMismatch OmxError.noConfusion (by simp [setPortDefinition, hsize, hversion])
      (by simp [hversion]))
  by_cases hinput : p.definition.nPortIndex = 0
  · by_cases hmime : p.format.cMIMEType = .input
    case neg =>
      exact .inr (hrefused .badParameter OmxError.noConfusion
        (by simp [setPortDefinition, hsize, hversion, hinput, hmime]) (by simp [hinput, hmime]))
    by_cases hcodec : p.format.eCompressionFormat = some s.d.codec
    case neg =>
      exact .inr (hrefused .badParameter OmxError.noConfusion
        (by simp [setPortDefinition, hsize, hversion, hinput, hmime, hcodec]) (by simp [hinput, hcodec]))
    refine .inl ⟨checked_iff.mpr ⟨hsize, hversion, .inl ⟨hinput, hmime, hcodec⟩⟩, ?_⟩
    simp [setPortDefinition, hsize, hversion, hinput, hmime, hcodec]
  · by_cases houtput : p.definition.nPortIndex = 1
    case neg =>
      exact .inr (hrefused .badPortIndex OmxError.noConfusion
        (by simp [setPortDefinition, hsize, hversion, hinput, houtput]) (by simp [hinput, houtput]))
    by_cases hmime : p.format.cMIMEType = .output
    case neg =>
      exact .inr (hrefused .badParameter OmxError.noConfusion
        (by simp [setPortDefinition, hsize, hversion, houtput, hmime]) (by simp [houtput, hmime]))
    refine .inl ⟨checked_iff.mpr ⟨hsize, hversion, .inr ⟨houtput, hmime⟩⟩, ?_⟩
    simp [setPortDefinition, hsize, hversion, houtput, hmime]

theorem unchanged_refl (s : ParameterState) : Unchanged s s := ⟨rfl, rfl, rfl, rfl, rfl, rfl, rfl⟩

/-! ### Storing and verifying -/

section
variable {hcodec : p.definition.nPortIndex = 0 → p.format.eCompressionFormat = some s.d.codec}

theorem storeDefinition_unchanged_iff : Unchanged s (s.storeDefinition p hcodec) ↔ s.alreadyStored p = true := by
  by_cases hindex : p.definition.nPortIndex = 0
  · simp only [storeDefinition, alreadyStored, hindex, dif_pos, if_true, Bool.and_eq_true, decide_eq_true_eq]
    exact ⟨fun h => ⟨h.inputDefinition, h.inputFormat⟩, fun h => ⟨h.1, h.2, rfl, rfl, rfl, rfl, rfl⟩⟩
  · simp only [storeDefinition, alreadyStored, hindex, dif_neg, not_false_eq_true, if_false, Bool.and_eq_true,
      decide_eq_true_eq]
    exact ⟨fun h => ⟨h.outputDefinition, h.outputFormat⟩, fun h => ⟨rfl, rfl, h.1, h.2, rfl, rfl, rfl⟩⟩

theorem verifyOutputPort_cases (hcodec : p.definition.nPortIndex = 0 → p.format.eCompressionFormat = some s.d.codec)
    (hindex : p.definition.nPortIndex = 1) :
    if s.exceedsLimits p then
      (s.storeDefinition p hcodec).verifyOutputPort = (s.storeDefinition p hcodec, .badParameter)
    else (s.storeDefinition p hcodec).verifyOutputPort.2 = .none := by
  have hlarge : s.exceedsLimits p = true ↔
      s.maxDecoderWidth < p.definition.nFrameWidth ∨ s.maxDecoderHeight < p.definition.nFrameHeight := by
    simp [exceedsLimits, hindex]
  have hne : ¬p.definition.nPortIndex = 0 := by omega
  split
  · next h =>
    simp only [verifyOutputPort, storeDefinition, dif_neg hne, Port.setDefinition]
    exact if_pos (hlarge.mp h)
  · next h =>
    simp only [verifyOutputPort, storeDefinition, dif_neg hne, Port.setDefinition]
    rw [if_neg (mt hlarge.mpr h)]

/-- `VerifyInputPortBuffers` refuses a size of which two buffers do not fit the memory of the input buffers, and makes the
    number of buffers fit any other. -/
theorem verifyInputPortBuffers_cases (port : Port) :
    if dataBufferSizeHighres * numInputBuffers < 2 * port.definition.nBufferSize then
      verifyInputPortBuffers port = .error .insufficientResources
    else ∃ port' m, verifyInputPortBuffers port = .ok (port', m) ∧
      dataBufferSizeDefault ≤ port'.definition.nBufferSize ∧
      (dataBufferSizeHighres < port'.definition.nBufferSize → 2 ≤ port'.definition.nBufferCountActual) := by
  set size := port.definition.nBufferSize with hdef
  by_cases hsize : dataBufferSizeHighres < size
  · have hcount : dataBufferSizeHighres * numInputBuffers / size < 2 ↔ dataBufferSizeHighres * numInputBuffers < 2 * size :=
      Nat.div_lt_iff_lt_mul (Nat.zero_lt_of_lt hsize)
    have hdefault : ¬size < dataBufferSizeDefault := by
      simp only [dataBufferSizeDefault, dataBufferSizeHighres] at hsize ⊢
      omega
    split
    · next hfew =>
      simp only [verifyInputPortBuffers, ← hdef]
      exact if_pos ⟨hsize, hcount.mpr hfew⟩
    · next hfew =>
      have htwo := mt hcount.mp hfew
      simp only [verifyInputPortBuffers, ← hdef, gt_iff_lt, hsize, htwo, and_false, if_false, if_true, hdefault]
      exact ⟨_, _, rfl, Nat.not_lt.mp hdefault, fun _ => Nat.not_lt.mp htwo⟩
  · have hfew : ¬dataBufferSizeHighres * numInputBuffers < 2 * size := by
      simp only [dataBufferSizeHighres, numInputBuffers] at hsize ⊢
      omega
    rw [if_neg hfew]
    simp only [verifyInputPortBuffers, ← hdef, gt_iff_lt, hsize, false_and, if_false]
    by_cases hsmall : size < dataBufferSizeDefault
    · simp only [hsmall, if_true]
      exact ⟨_, _, rfl, Nat.le_refl _, fun hlarge =>
        absurd hlarge (show ¬dataBufferSizeHighres < dataBufferSizeDefault by decide)⟩
    · simp only [hsmall, if_false]
      exact ⟨_, _, rfl, Nat.not_lt.mp hsmall, fun hlarge => absurd hlarge hsize⟩

theorem verifyInputPort_cases (hcodec : p.definition.nPortIndex = 0 → p.format.eCompressionFormat = some s.d.codec)
    (hindex : p.definition.nPortIndex = 0) :
    if s.exceedsLimits p then
      (s.storeDefinition p hcodec).verifyInputPort = (s.storeDefinition p hcodec, .insufficientResources)
    else (s.storeDefinition p hcodec).verifyInputPort.2 = .none ∧
      InputSized (s.storeDefinition p hcodec).verifyInputPort.1 := by
  have hlarge : s.exceedsLimits p = true ↔ dataBufferSizeHighres * numInputBuffers < 2 * p.definition.nBufferSize := by
    simp only [exceedsLimits, hindex, decide_true, Bool.true_and, Bool.or_eq_true, decide_eq_true_eq, Bool.and_eq_true,
      Nat.zero_ne_one, false_and, false_or]
  have hsize : (s.storeDefinition p hcodec).d.inp.port.definition.nBufferSize = p.definition.nBufferSize := by
    simp [storeDefinition, hindex, Port.setDefinition]
  have hcases := verifyInputPortBuffers_cases (s.storeDefinition p hcodec).d.inp.port
  rw [hsize] at hcases
  split
  · next h =>
    rw [if_pos (hlarge.mp h)] at hcases
    simp only [verifyInputPort, hcases]
  · next h =>
    rw [if_neg (mt hlarge.mpr h)] at hcases
    obtain ⟨port, m, hverify, hdefault, hcount⟩ := hcases
    simp only [verifyInputPort, hverify]
    exact ⟨trivial, hdefault, hcount, (verifyInputPortBuffers_ok hverify).1⟩

end

/-! ### Atomicity -/

theorem setPortDefinition_checked (hchecked : s.checked p = true) :
    if s.exceedsLimits p then
      ∃ err ≠ OmxError.none, s.setPortDefinition p = (s.storeDefinition p (hcodec_of_checked hchecked), err)
    else (s.setPortDefinition p).2 = .none ∧
      (p.definition.nPortIndex = 0 → InputSized (s.setPortDefinition p).1) := by
  rcases setPortDefinition_cases p s with ⟨_, heq⟩ | ⟨hrefused, -⟩
  case inr => exact absurd hchecked (by simp [hrefused])
  by_cases hindex : p.definition.nPortIndex = 1
  · have houtput := verifyOutputPort_cases (s := s) (hcodec_of_checked hchecked) hindex
    rw [if_pos hindex] at heq
    split at houtput
    · next hexceeds =>
      rw [if_pos hexceeds, heq, houtput]
      exact ⟨.badParameter, OmxError.noConfusion, rfl⟩
    · next hexceeds =>
      rw [if_neg hexceeds, heq]
      exact ⟨houtput, fun hzero => absurd (hindex.symm.trans hzero) Nat.one_ne_zero⟩
  · have hzero : p.definition.nPortIndex = 0 := by
      obtain ⟨-, -, ⟨hzero, -⟩ | ⟨hone, -⟩⟩ := checked_iff.mp hchecked
      · exact hzero
      · exact absurd hone hindex
    have hinput := verifyInputPort_cases (s := s) (hcodec_of_checked hchecked) hzero
    rw [if_neg hindex] at heq
    split at hinput
    · next hexceeds =>
      rw [if_pos hexceeds, heq, hinput]
      exact ⟨.insufficientResources, OmxError.noConfusion, rfl⟩
    · next hexceeds =>
      rw [if_neg hexceeds, heq]
      exact ⟨hinput.1, fun _ => hinput.2⟩

/-- A port definition is set atomically exactly if it passes both checks, or does not get to the second one, or is what the
    port has already. -/
theorem setPortDefinition_atomic_iff (p : PortParameter) (s : ParameterState) :
    Atomic p s ↔ (s.checked p = true → s.exceedsLimits p = true → s.alreadyStored p = true) := by
  by_cases hchecked : s.checked p = true
  · have houtcome := setPortDefinition_checked hchecked
    split at houtcome
    · next hexceeds =>
      -- the definition stays although the call fails
      obtain ⟨err, herr, heq⟩ := houtcome
      have hstored : Unchanged s (s.setPortDefinition p).1 ↔ s.alreadyStored p = true := by
        rw [heq]
        exact storeDefinition_unchanged_iff
      have herror : (s.setPortDefinition p).2 ≠ .none := by
        rw [heq]
        exact herr
      exact ⟨fun h _ _ => hstored.mp (h.error herror),
        fun h => ⟨fun _ => hstored.mpr (h hchecked hexceeds), fun hnone => absurd hnone herror⟩⟩
    · next hexceeds =>
      exact ⟨fun _ _ h => absurd h hexceeds, fun _ => ⟨fun herr => absurd houtcome.1 herr, fun _ => houtcome.2⟩⟩
  · rcases setPortDefinition_cases p s with ⟨h, -⟩ | ⟨-, err, herr, heq⟩
    · exact absurd h hchecked
    · refine ⟨fun _ h => absurd h hchecked, fun _ => ⟨fun _ => ?_, fun hnone => ?_⟩⟩
      · rw [heq]
        exact unchanged_refl s
      · rw [heq] at hnone
        exact absurd hnone herr

/-- A new AVC decoder for frames of up to 1920 x 1080. -/
def hdDecoder : ParameterState :=
  { d := VideoDecoder.init .avc .standard false
      { nPortIndex := 0, nBufferCountActual := 12, nBufferCountMin := 12, nBufferSize := dataBufferSizeDefault }
      { nPortIndex := 1, nBufferCountActual := 4, nBufferCountMin := 4, nBufferSize := 3110400, nFrameWidth := 1920
        nFrameHeight := 1080 }
    inputFormat := { cMIMEType := .input, eCompressionFormat := some .avc }
    outputFormat := { cMIMEType := .output, nStride := 1920, nSliceHeight := 1080 }
    maxDecoderWidth := 1920, maxDecoderHeight := 1080, playpumpDescList := none
    hcodec := rfl }

/-- A frame size of 4096 x 2160 is refused and stored. -/
def largeFrame : PortParameter :=
  { definition := { nPortIndex := 1, nBufferCountActual := 4, nBufferCountMin := 4, nBufferSize := 3110400
                    nFrameWidth := 4096, nFrameHeight := 2160 }
    format := { cMIMEType := .output } }

/-- So are input buffers of 20 MiB. -/
def largeBuffers : PortParameter :=
  { definition := { nPortIndex := 0, nBufferCountActual := 12, nBufferCountMin := 12, nBufferSize := 20971520 }
    format := { cMIMEType := .input, eCompressionFormat := some .avc } }

theorem setPortDefinition_not_atomic :
    (hdDecoder.setPortDefinition largeFrame).2 = .badParameter ∧
    (hdDecoder.setPortDefinition largeFrame).1.d.out.port.definition.nFrameWidth = 4096 ∧
    (hdDecoder.setPortDefinition largeFrame).1.d.out.outputWidth = 1920 ∧
    (hdDecoder.setPortDefinition largeBuffers).2 = .insufficientResources ∧
    (hdDecoder.setPortDefinition largeBuffers).1.d.inp.port.definition.nBufferSize = 20971520 ∧
    (hdDecoder.setPortDefinition largeBuffers).1.d.inp.maxDescriptorsPerBuffer = 77 ∧
    ¬Atomic largeFrame hdDecoder ∧ ¬Atomic largeBuffers hdDecoder := by
  refine ⟨by decide, by decide, by decide, by decide, by decide, by decide, fun h => ?_, fun h => ?_⟩
  · exact absurd (h.error (by decide)).outputDefinition (by decide)
  · exact absurd (h.error (by decide)).inputDefinition (by decide)

end ParameterState
end BcmPlatform.Bomx
