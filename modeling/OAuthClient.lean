import OAuthClient.Credential.OpenId
import OAuthClient.Main
import OAuthClient.Proofs.AcquisitionFrames
import OAuthClient.Proofs.CacheKeys
import OAuthClient.Proofs.DevicePolling
import OAuthClient.Proofs.DeviceSignIns
import OAuthClient.Proofs.FailedAcquisition
import OAuthClient.Proofs.FileDelivery
import OAuthClient.Proofs.IdTokenChecks
import OAuthClient.Proofs.IdTokenGuard
import OAuthClient.Proofs.ProofKeys
import OAuthClient.Proofs.SessionCleanup
import OAuthClient.Proofs.SharedUsers
import OAuthClient.Proofs.SignedAssertions
import OAuthClient.Proofs.StateRoundTrip
import OAuthClient.Proofs.TokenFailures
import OAuthClient.Proofs.UploadGaps
import OAuthClient.Proofs.ParameterEdits
import OAuthClient.Proofs.DebugTexts
import OAuthClient.Proofs.RangeHandouts
import OAuthClient.Proofs.UploadOutcomes
import OAuthClient.Proofs.TokenReading
import OAuthClient.Proofs.RangeSteps
import OAuthClient.Proofs.RedirectReading
import OAuthClient.Proofs.RetryLaw
import OAuthClient.Proofs.CodeExchanges
import OAuthClient.Proofs.ScopeTexts
import OAuthClient.Proofs.DriveUrls
import OAuthClient.Proofs.PollingPace
import OAuthClient.Proofs.AssertionAudience
import OAuthClient.Proofs.FolderSlashes
import OAuthClient.Proofs.EnvironmentChoice
import OAuthClient.Proofs.UnpaddedForms
