import Feros.Guarantees.AgentTimeline
import Feros.Guarantees.Answers
import Feros.Guarantees.Artifacts
import Feros.Guarantees.AudioStamps
import Feros.Guarantees.BrokenStream
import Feros.Guarantees.BuilderEdits
import Feros.Guarantees.CallEvents
import Feros.Guarantees.CallTimeline
import Feros.Guarantees.CanonicalConfigs
import Feros.Guarantees.CollectedSpeech
import Feros.Guarantees.Compressions
import Feros.Guarantees.Conversations
import Feros.Guarantees.Credentials
import Feros.Guarantees.DenoisedAudio
import Feros.Guarantees.EngineLifetimes
import Feros.Guarantees.ExpiringEntries
import Feros.Guarantees.FallbackHealth
import Feros.Guarantees.FileAnswers
import Feros.Guarantees.Fillers
import Feros.Guarantees.FrameAlignment
import Feros.Guarantees.GraphChecks
import Feros.Guarantees.HangUp
import Feros.Guarantees.HardTrim
import Feros.Guarantees.IdleNudges
import Feros.Guarantees.ImportSuggestions
import Feros.Guarantees.LlmAccounting
import Feros.Guarantees.MarkerDetection
import Feros.Guarantees.NativeBilling
import Feros.Guarantees.NativeRecv
import Feros.Guarantees.NativeTranscripts
import Feros.Guarantees.OAuthStates
import Feros.Guarantees.OnHold
import Feros.Guarantees.OpenedContexts
import Feros.Guarantees.OutputDeltas
import Feros.Guarantees.OutputGate
import Feros.Guarantees.OverlapAdd
import Feros.Guarantees.Paging
import Feros.Guarantees.PlaybackDelays
import Feros.Guarantees.PlayedAudio
import Feros.Guarantees.Reconnects
import Feros.Guarantees.RecordedSpeech
import Feros.Guarantees.RecvDropped
import Feros.Guarantees.RefreshBatches
import Feros.Guarantees.Routing
import Feros.Guarantees.SandboxedFiles
import Feros.Guarantees.SeamlessSends
import Feros.Guarantees.SecretMaps
import Feros.Guarantees.SecretTokens
import Feros.Guarantees.SpanTexts
import Feros.Guarantees.SpeechContexts
import Feros.Guarantees.SpeechSegments
import Feros.Guarantees.SpokenWords
import Feros.Guarantees.SttAnswers
import Feros.Guarantees.SttCoverage
import Feros.Guarantees.StunAddress
import Feros.Guarantees.Summaries
import Feros.Guarantees.SummaryCuts
import Feros.Guarantees.ToolDispatch
import Feros.Guarantees.ToolWindow
import Feros.Guarantees.TurnEnds
import Feros.Guarantees.TurnProtocol
import Feros.Guarantees.TurnSpans
import Feros.Guarantees.UserSpeech
import Feros.Guarantees.UserTranscripts
import Feros.Guarantees.Utterances
import Feros.Guarantees.VadDelivery
import Feros.Guarantees.VaultIsolation
import Feros.Guarantees.WakeUps
import Feros.Guarantees.WavDecoding
import Feros.Guarantees.RunEvents
import Feros.Guarantees.RunStreams
