import BcmPlatform.Lib.Memory
import BcmPlatform.Lib.Segments
import BcmPlatform.Lib.PesStream
import BcmPlatform.Lib.Runs
import BcmPlatform.Lib.Timelines
import BcmPlatform.Lib.Framing
import BcmPlatform.Bomx.Omx
import BcmPlatform.Bomx.Pes
import BcmPlatform.Bomx.Port
import BcmPlatform.Bomx.Input
import BcmPlatform.Bomx.Tracker
import BcmPlatform.Bomx.Output
import BcmPlatform.Bomx.VideoDecoder
import BcmPlatform.Bomx.VideoStep
import BcmPlatform.Bomx.AudioDecoder
import BcmPlatform.Theorems.Pes
import BcmPlatform.Theorems.PesRoom
import BcmPlatform.Theorems.InputRules
import BcmPlatform.Theorems.DecoderFlags
import BcmPlatform.Theorems.InputReturn
import BcmPlatform.Theorems.InputAccounting
import BcmPlatform.Theorems.EmptyThisBuffer
import BcmPlatform.Theorems.AccountingSteps
import BcmPlatform.Theorems.AudioAccounting
import BcmPlatform.Theorems.DescriptorRuns
import BcmPlatform.Theorems.AvailableBuffers
import BcmPlatform.Theorems.FlushInput
import BcmPlatform.Theorems.EmptyAtomic
import BcmPlatform.Theorems.FrameList
import BcmPlatform.Theorems.FrameQueue
import BcmPlatform.Theorems.FrameMoves
import BcmPlatform.Theorems.PollFrames
import BcmPlatform.Theorems.OutputRules
import BcmPlatform.Theorems.FrameRuns
import BcmPlatform.Theorems.FrameSpecs
import BcmPlatform.Theorems.Linkage
import BcmPlatform.Theorems.FormatChange
import BcmPlatform.Theorems.FrameNumbers
import BcmPlatform.Theorems.DisplayRequests
import BcmPlatform.Theorems.DisplayRuns
import BcmPlatform.Bomx.PortState
import BcmPlatform.Bomx.Command
import BcmPlatform.Bomx.ConfigHistory
import BcmPlatform.Bomx.AudioOutput
import BcmPlatform.Theorems.PortState
import BcmPlatform.Theorems.Command
import BcmPlatform.Theorems.ConfigState
import BcmPlatform.Theorems.ConfigDelivery
import BcmPlatform.Theorems.AudioShadow
import BcmPlatform.Theorems.AudioCalls
import BcmPlatform.Theorems.AudioDelivery
import BcmPlatform.Theorems.AudioOwnership
import BcmPlatform.Hwc.ReleaseFence
import BcmPlatform.Theorems.ReleaseFences
import BcmPlatform.Bomx.EncoderOutput
import BcmPlatform.Theorems.EncoderFraming
import BcmPlatform.Bomx.EndOfStream
import BcmPlatform.Theorems.Undelivered
import BcmPlatform.Theorems.StreamEnd
import BcmPlatform.Theorems.EosDelivery
import BcmPlatform.Theorems.StreamSteps
import BcmPlatform.Theorems.StreamStates
import BcmPlatform.Theorems.EndOfStream
import BcmPlatform.Lib.Bytes
import BcmPlatform.Hwc.HandOver
import BcmPlatform.Hwc.Surfaces
import BcmPlatform.Hwc.SkipLayers
import BcmPlatform.Theorems.HandOver
import BcmPlatform.Theorems.SetWaits
import BcmPlatform.Theorems.Surfaces
import BcmPlatform.Theorems.RetireFences
import BcmPlatform.Theorems.SkipLayers
import BcmPlatform.Audio.TunnelDebounce
import BcmPlatform.Theorems.TunnelDebounce
import BcmPlatform.Audio.AvSyncWrite
import BcmPlatform.Theorems.AvSyncStream
import BcmPlatform.Theorems.AvSyncWrite
import BcmPlatform.Audio.BlockedWrite
import BcmPlatform.Theorems.BlockedWrite
import BcmPlatform.Audio.StandbyMonitor
import BcmPlatform.Theorems.StandbyMonitor
import BcmPlatform.Power.Interactive
import BcmPlatform.Theorems.Interactive
import BcmPlatform.Ir.KeyThread
import BcmPlatform.Theorems.KeyThread
import BcmPlatform.Lib.Spans
import BcmPlatform.Hwc.Clip
import BcmPlatform.Theorems.Clip
import BcmPlatform.Theorems.BackPressure
import BcmPlatform.Cec.Device
import BcmPlatform.Theorems.CecGating
import BcmPlatform.Hwc.Binder
import BcmPlatform.Theorems.SurfaceClaims
import BcmPlatform.Hwc.Classify
import BcmPlatform.Theorems.Classify
import BcmPlatform.Hwc.LayerTables
import BcmPlatform.Theorems.LayerTables
import BcmPlatform.Lib.Logs
import BcmPlatform.Hwc.AcquireFence
import BcmPlatform.Theorems.AcquireFences
import BcmPlatform.Hwc.MemLocks
import BcmPlatform.Theorems.MemLocks
import BcmPlatform.Bomx.EncoderInput
import BcmPlatform.Lib.Prefixes
import BcmPlatform.Theorems.EncoderInput
import BcmPlatform.Theorems.EncoderTimestamps
import BcmPlatform.Bomx.Yv12
import BcmPlatform.Theorems.Yv12
import BcmPlatform.Theorems.ReturnWalk
import BcmPlatform.Theorems.PushBack
import BcmPlatform.Bomx.ClientReads
import BcmPlatform.Theorems.ClientReads
import BcmPlatform.Bomx.CodecDelay
import BcmPlatform.Theorems.CodecDelay
import BcmPlatform.Bomx.SetParameter
import BcmPlatform.Theorems.SetParameter
import BcmPlatform.Bomx.PortDisable
import BcmPlatform.Theorems.PortDevice
import BcmPlatform.Theorems.PortDisable
import BcmPlatform.Lib.Queues
import BcmPlatform.Lib.Evictions
import BcmPlatform.Theorems.NodeTracker
import BcmPlatform.Theorems.TrackerRuns
import BcmPlatform.Theorems.Timestamps
import BcmPlatform.Lib.AacConfig
import BcmPlatform.Bomx.AacParser
import BcmPlatform.Theorems.AacParser
import BcmPlatform.Lib.Strtoul
import BcmPlatform.Ir.KeyMap
import BcmPlatform.Theorems.KeyMap
import BcmPlatform.Lib.Crc
import BcmPlatform.Gpt.Efi
import BcmPlatform.Theorems.GptLayout
import BcmPlatform.Gpt.MakeGpt
import BcmPlatform.Theorems.MakeGpt
import BcmPlatform.Bomx.CodecConfigReads
import BcmPlatform.Theorems.CodecConfigReads
import BcmPlatform.Theorems.EncoderEos
import BcmPlatform.Theorems.EncoderEosRuns
import BcmPlatform.Lib.StartCodes
import BcmPlatform.Hevc.Rbsp
import BcmPlatform.Theorems.Rbsp
import BcmPlatform.Hevc.NalUnits
import BcmPlatform.Theorems.NalUnits
import BcmPlatform.Theorems.NalStreams
import BcmPlatform.Piff.SeekBox
import BcmPlatform.Theorems.SeekBox
import BcmPlatform.Theorems.TunnelLoops
import BcmPlatform.Lib.Quotients
import BcmPlatform.Audio.Positions
import BcmPlatform.Theorems.Positions
import BcmPlatform.Audio.TunnelFrames
import BcmPlatform.Theorems.TunnelFrames
import BcmPlatform.Lib.BitSyntax
import BcmPlatform.Lib.HevcSyntax
import BcmPlatform.Hevc.ParameterSets
import BcmPlatform.Theorems.SpsReads
import BcmPlatform.Theorems.SpsReferences
import BcmPlatform.Theorems.ParameterSets
import BcmPlatform.Hevc.CodecSpecificData
import BcmPlatform.Theorems.CodecSpecificData
import BcmPlatform.Lib.Walks
import BcmPlatform.Piff.Boxes
import BcmPlatform.Piff.Fragments
import BcmPlatform.Theorems.PiffTables
import BcmPlatform.Lib.IsoBoxes
import BcmPlatform.Piff.MovieTree
import BcmPlatform.Lib.Folds
import BcmPlatform.Theorems.BoxReads
import BcmPlatform.Theorems.SinfReads
import BcmPlatform.Theorems.MovieReads
import BcmPlatform.Lib.Fields
import BcmPlatform.Power.Gpio
import BcmPlatform.Theorems.Gpio
import BcmPlatform.Lib.IntCalc
import BcmPlatform.Gralloc.Buffer
import BcmPlatform.Gralloc.Alloc
import BcmPlatform.Theorems.GrallocAlloc
import BcmPlatform.Theorems.GrallocGeometry
import BcmPlatform.Theorems.GrallocClear
import BcmPlatform.Gralloc.Mapper
import BcmPlatform.Theorems.GrallocLocks
import BcmPlatform.Audio.OutputStreams
import BcmPlatform.Theorems.OutputBackends
import BcmPlatform.Theorems.OutputStreams
import BcmPlatform.Lib.KeyedVectors
import BcmPlatform.Lib.Reassembly
import BcmPlatform.Ts.Queues
import BcmPlatform.Theorems.StreamQueues
import BcmPlatform.Ts.PacketSources
import BcmPlatform.Ts.Programs
import BcmPlatform.Theorems.Reassembly
import BcmPlatform.Theorems.PesPackets
import BcmPlatform.Theorems.Sections
import BcmPlatform.Theorems.ProgramMaps
