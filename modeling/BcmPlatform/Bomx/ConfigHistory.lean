import BcmPlatform.Bomx.VideoStep

/-! The codec config in a run of the video decoder: the events of `EmptyThisBuffer`, of input flushes and of changes to
    Idle, the newest first, and the config that a frame has to carry as a function of them. -/

namespace BcmPlatform.Bomx

/-- A frame that the playpump took: its codec header and data, and the bytes that its descriptors address. -/
structure SubmittedFrame where
  content : List UInt8
  bytes : List UInt8
  deriving DecidableEq, Repr

inductive ConfigEvent where
  | config (data : List UInt8)
  | frame (f : SubmittedFrame)
  | failed
  | flush
  | restart
  deriving DecidableEq, Repr

/-! ### What the client expects -/

/-- Whether further config data belongs to the same config: no frame was submitted and there was no flush since. -/
def configOpen : List ConfigEvent → Bool
  | [] | .config _ :: _ | .restart :: _ => true
  | .frame _ :: _ | .flush :: _ => false
  | .failed :: older => configOpen older

/-- The config data since the last submitted frame or flush or, if there is none, the config that was last complete. -/
def latestConfig : List ConfigEvent → List UInt8
  | [] | .restart :: _ => []
  | .config data :: older => (if configOpen older then latestConfig older else []) ++ data
  | .frame _ :: older | .flush :: older | .failed :: older => latestConfig older

/-- Whether the next frame carries the config: there was no frame since the last config data or flush. -/
def configDue : List ConfigEvent → Bool
  | .frame _ :: _ => false
  | .failed :: older => configDue older
  | [] | .config _ :: _ | .restart :: _ | .flush :: _ => true

/-- What the next frame has in front of its content. -/
def dueConfig (history : List ConfigEvent) : List UInt8 := if configDue history then latestConfig history else []

/-! ### What the component does -/

namespace InputSide

/-- `BuildInputFrame` as `EmptyThisBuffer` calls it, once the frame is tracked. -/
def builtFrame (codec : VideoCodec) (b : BufferId) (s : InputSide) :
    Bool × FrameBuilder × Except OmxError (List Descriptor) :=
  let frame := (s.buffer b).header.payload
  let s := s.trackFrame codec b
  videoBuildInputFrame codec s.ptsReceived true (s.buffer b).pts (codecHeader codec frame.length) frame
    (s.maxDescriptorsPerBuffer - 1) (s.builder b)

/-- A frame is submitted if it was built and the playpump takes it. -/
def frameEvent (codec : VideoCodec) (accepted : Bool) (b : BufferId) (s : InputSide) : ConfigEvent :=
  let frame := (s.buffer b).header.payload
  let p := s.builtFrame codec b
  match p.2.2 with
  | .error _ => .failed
  | .ok descs =>
    if s.hPlaypump && accepted then
      .frame { content := codecHeader codec frame.length ++ frame
               bytes := descriptorBytes p.2.1.header p.2.1.configBuffer frame descs }
    else .failed

/-- The event of `EmptyThisBuffer`. Config data that overflows the config buffer is refused. -/
def bufferEvents (codec : VideoCodec) (submit : SubmitResult) (b : BufferId) (s : InputSide) : List ConfigEvent :=
  let header := (s.buffer b).header
  if !headerAccepted header then []
  else if header.nFlags.codecConfig then
    if (s.emptyThisBuffer codec submit b).2 = .overflow then [] else [.config header.payload]
  else if header.nFilledLen > 0 then [s.frameEvent codec submit.frame b]
  else []

end InputSide

namespace VideoDecoder

/-- The events of a step. A change to Idle starts with an empty config. -/
def configEvents (d : VideoDecoder) : VideoAction → List ConfigEvent
  | .emptyThisBuffer submit b header => (d.inp.setBuffer b { d.inp.buffer b with header }).bufferEvents d.codec submit b
  | .flushInput .. => [.flush]
  | .stateSet .idle .. => if d.stateChangeAllowed .idle then [.restart] else []
  | _ => []

/-- A step of the decoder with the history of its events. -/
def historyStep (p : VideoDecoder × List ConfigEvent) (a : VideoAction) : Option (VideoDecoder × List ConfigEvent) :=
  (p.1.step a).map fun d => (d, p.1.configEvents a ++ p.2)

end VideoDecoder
end BcmPlatform.Bomx
