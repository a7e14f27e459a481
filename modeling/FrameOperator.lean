import FrameOperator.Theorems.AlertPurge
import FrameOperator.Theorems.AskedRestart
import FrameOperator.Theorems.Bootstrap
import FrameOperator.Theorems.FalseVerdict
import FrameOperator.Theorems.FirstKey
import FrameOperator.Theorems.Generation
import FrameOperator.Theorems.GuardedLabels
import FrameOperator.Theorems.InstallTrace
import FrameOperator.Theorems.LabelsGone
import FrameOperator.Theorems.NeverForgets
import FrameOperator.Theorems.NeverReplaced
import FrameOperator.Theorems.NoTrace
import FrameOperator.Theorems.OneClaimant
import FrameOperator.Theorems.OneClassifier
import FrameOperator.Theorems.OneMailbox
import FrameOperator.Theorems.OneOwner
import FrameOperator.Theorems.ReadyFinished
import FrameOperator.Theorems.RecordedShell
import FrameOperator.Theorems.RequestOnce
import FrameOperator.Theorems.SameVolume
import FrameOperator.Theorems.SealedTokens
import FrameOperator.Theorems.TerminalCondition
import FrameOperator.Theorems.TwoWriters
import FrameOperator.Theorems.QuotasFollow
import FrameOperator.Theorems.ClaimVerdict
import FrameOperator.Theorems.ConvergeSettles
import FrameOperator.Theorems.SpokeEdits
import FrameOperator.Theorems.WatchLoop
import FrameOperator.Theorems.SignOut
import FrameOperator.Theorems.RenderedNetwork
