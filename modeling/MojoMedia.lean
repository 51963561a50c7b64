import MojoMedia.Shared.Runs
import MojoMedia.Shared.MachineInt
import MojoMedia.Shared.LongDivision
import MojoMedia.Shared.Ring
import MojoMedia.Transport.CircularBuffer
import MojoMedia.Transport.CircularBufferSession
import MojoMedia.Transport.CircularBufferInvariant
import MojoMedia.Transport.CircularBufferSafety
import MojoMedia.Transport.CircularBufferRuns
import MojoMedia.Shared.LinkedList
import MojoMedia.Transport.FifoAllocator
import MojoMedia.Transport.FifoAllocatorLists
import MojoMedia.Transport.FifoAllocatorLayout
import MojoMedia.Transport.FifoAllocatorSafety
import MojoMedia.Common.LinearTransform
import MojoMedia.Common.LinearTransformExact
import MojoMedia.Common.RateControl
import MojoMedia.Common.RateContinuity
import MojoMedia.Shared.Generations
import MojoMedia.Common.RateInvariant
import MojoMedia.Audio.LinearSampler
import MojoMedia.Audio.LinearSamplerSweep
import MojoMedia.Audio.MixRegions
import MojoMedia.Shared.OrderedMap
import MojoMedia.Shared.Extents
import MojoMedia.Framework.SparseByteBuffer
import MojoMedia.Framework.SparseByteBufferPartition
import MojoMedia.Framework.ReaderCache
import MojoMedia.Framework.ReaderCacheServe
import MojoMedia.Framework.ReaderCacheInvariant
import MojoMedia.Framework.ReaderCacheDelivery
import MojoMedia.Audio.TrackLinks
import MojoMedia.Audio.OneLink
import MojoMedia.Shared.ReleaseOrder
import MojoMedia.Audio.PendingQueues
import MojoMedia.Audio.LinkInvariant
import MojoMedia.Audio.PacketReturn
import MojoMedia.Audio.ReferenceLedger
import MojoMedia.Shared.Histories
import MojoMedia.Audio.FlushSafety
import MojoMedia.Shared.Transducers
import MojoMedia.Framework.Stages
import MojoMedia.Framework.Connections
import MojoMedia.Framework.MateSymmetry
import MojoMedia.Framework.Preparation
import MojoMedia.Framework.Unprepare
import MojoMedia.Framework.ActiveMultistreamSource
import MojoMedia.Framework.Engine
import MojoMedia.Framework.SlotSafety
import MojoMedia.Framework.Wakeups
import MojoMedia.Framework.Quiescence
import MojoMedia.Framework.EngineDelivery
import MojoMedia.Audio.TransformCache
import MojoMedia.Audio.AudioPipe
import MojoMedia.Audio.PacketRegions
import MojoMedia.Audio.PointSampler
import MojoMedia.Audio.PointSamplerSweep
import MojoMedia.Audio.ProcessMix
import MojoMedia.Audio.MixAccumulation
import MojoMedia.Audio.PacketEntry
import MojoMedia.Audio.TrackSamples
import MojoMedia.FrameworkMojo.MediaTransport
import MojoMedia.FrameworkMojo.MojoPullModeProducer
import MojoMedia.FrameworkMojo.MojoProducer
import MojoMedia.FrameworkMojo.StreamTypes
import MojoMedia.FrameworkMojo.TypeConversions
import MojoMedia.FactoryService.MediaPlayer
import MojoMedia.FactoryService.MediaPlayerTargets
import MojoMedia.FactoryService.MediaPlayerSeeks
import MojoMedia.MessagePump.MessagePumpMojo
import MojoMedia.MessagePump.Registrations
import MojoMedia.MessagePump.HandleWatcher
import MojoMedia.MessagePump.WatcherBackend
import MojoMedia.MessagePump.HandleWatcherProtocol
import MojoMedia.MessagePump.HandleWatcherSafety
import MojoMedia.Audio.MixerContracts
import MojoMedia.Audio.MixSafety
import MojoMedia.Audio.SingularTransforms
import MojoMedia.Shared.FloorMaps
import MojoMedia.Shared.Schedules
import MojoMedia.Common.TimelineRate
import MojoMedia.Common.TimelineRateReduced
import MojoMedia.Common.BinaryGcd
import MojoMedia.Common.EuclidReduce
import MojoMedia.Common.TimelineRateScale
import MojoMedia.Common.TimelineRateProduct
import MojoMedia.Common.TimelineFunction
import MojoMedia.Common.TimelineFunctionRounding
import MojoMedia.Common.RateSnapshots
import MojoMedia.Common.RateReset
import MojoMedia.Transport.CircularBufferCases
import MojoMedia.Transport.CircularBufferNoWrap
import MojoMedia.Transport.FifoAllocatorRecovery
import MojoMedia.Transport.CircularBufferAccounting
import MojoMedia.Transport.CircularBufferFlush
import MojoMedia.Transport.CircularBufferSignals
import MojoMedia.Audio.AdmittedPackets
import MojoMedia.Common.MediaPipeBase
import MojoMedia.Transport.CircularBufferFaults
import MojoMedia.Audio.MixerSelection
import MojoMedia.Audio.PacketTimes
import MojoMedia.Framework.SparseByteBufferSearch
import MojoMedia.Framework.SparseByteBufferFill
import MojoMedia.Framework.ReaderCacheAssertions
import MojoMedia.Audio.AlsaOutput
import MojoMedia.Audio.AlsaRecovery
import MojoMedia.Audio.SampledFrames
import MojoMedia.Audio.SamplerBounds
import MojoMedia.Audio.MutedSkip
import MojoMedia.Audio.MuteThreshold
import MojoMedia.Audio.InstanceSelection
import MojoMedia.Audio.RegionSampling
import MojoMedia.Audio.TrackSampling
import MojoMedia.Audio.TrackPlayback
import MojoMedia.Audio.MixTotal
import MojoMedia.Framework.ReaderCacheBytes
import MojoMedia.Framework.ReaderCacheCallbacks
import MojoMedia.Framework.ReaderCacheIntake
import MojoMedia.FrameworkMojo.MojoReader
import MojoMedia.FrameworkMojo.MojoReaderReads
import MojoMedia.FrameworkFfmpeg.AvIoContext
import MojoMedia.Framework.MultistreamSourcePackets
import MojoMedia.FrameworkFfmpeg.FfmpegDemux
import MojoMedia.FrameworkFfmpeg.DemuxWorker
import MojoMedia.FrameworkFfmpeg.DemuxAnswers
import MojoMedia.FrameworkFfmpeg.EndOfStream
import MojoMedia.Shared.NullableBuffers
import MojoMedia.Framework.LpcmReformatter
import MojoMedia.FrameworkFfmpeg.FfmpegDecoder
import MojoMedia.FrameworkFfmpeg.TransformProgress
import MojoMedia.Framework.PartRemoval
import MojoMedia.Framework.ConversionPipeline
import MojoMedia.Framework.ConversionFailure
import MojoMedia.Framework.ActiveMultistreamSink
import MojoMedia.Framework.CopySample
import MojoMedia.Framework.SampleReformatting
import MojoMedia.Framework.LpcmUtil
import MojoMedia.Framework.FrameLayout
import MojoMedia.Framework.Incident
import MojoMedia.Framework.IncidentCalls
import MojoMedia.FrameworkMojo.PullDemand
import MojoMedia.FrameworkMojo.PullEndOfStream
import MojoMedia.FrameworkFfmpeg.AudioTimestamps
import MojoMedia.FrameworkFfmpeg.FfmpegDecoderBase
import MojoMedia.FrameworkFfmpeg.DecoderDraining
import MojoMedia.Shared.Pipes
import MojoMedia.FactoryService.MojoPublisher
import MojoMedia.FrameworkMojo.MojoConsumer
import MojoMedia.FrameworkMojo.PayloadOwners
import MojoMedia.FrameworkMojo.ConnectionWires
import MojoMedia.FrameworkMojo.SharedPayloads
import MojoMedia.Framework.ThreadsafeIncident
import MojoMedia.Shared.Orbits
import MojoMedia.Framework.EngineFlush
import MojoMedia.Framework.LinearFlush
import MojoMedia.Framework.CallbackJoiner
import MojoMedia.FactoryService.StreamJoins
import MojoMedia.FactoryService.PlayerStartup
import MojoMedia.FactoryService.PlayerPreparation
import MojoMedia.Audio.AudioOutput
import MojoMedia.Audio.OutputShutdown
import MojoMedia.Audio.OutputRecords
import MojoMedia.Audio.OutputRuns
import MojoMedia.FactoryService.MediaSink
import MojoMedia.FactoryService.SinkTimeline
import MojoMedia.FactoryService.SinkRuns
import MojoMedia.Transport.AudioConnection
import MojoMedia.Transport.FramedPackets
import MojoMedia.Transport.MixerBytes
