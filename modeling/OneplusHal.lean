import OneplusHal.Face.Attempt
import OneplusHal.Face.EngineHandles
import OneplusHal.Face.Service
import OneplusHal.Face.Stores
import OneplusHal.Face.EnrollLoop
import OneplusHal.Face.Enrolling
import OneplusHal.Face.Deadline
import OneplusHal.Face.FailClosed
import OneplusHal.Face.Lockout
import OneplusHal.Face.TemplateStores
import OneplusHal.Face.MatchedTemplate
import OneplusHal.Face.EnrollAtomic
import OneplusHal.Face.Removal
import OneplusHal.Face.Provenance
import OneplusHal.Vibrator.InputFFDevice
import OneplusHal.Vibrator.Uploads
import OneplusHal.Amplifier.AudioAmplifier
import OneplusHal.Amplifier.Feedback
import OneplusHal.Amplifier.SndDeviceReferences
import OneplusHal.AlertSlider.AlertSliderPlugin
import OneplusHal.AlertSlider.Overlay
import OneplusHal.AlertSlider.SliderEvents
import OneplusHal.AlertSlider.KeyHandler
import OneplusHal.AlertSlider.MediaMute
import OneplusHal.Face.Mailbox
import OneplusHal.Face.Requests
import OneplusHal.Face.Outcomes
import OneplusHal.Face.Alike
import OneplusHal.Lib.Unwinding
import OneplusHal.Face.AlikeStates
import OneplusHal.Face.Isolation
import OneplusHal.Doze.DozeService
import OneplusHal.Doze.Listeners
import OneplusHal.Face.AuthenticatorId
import OneplusHal.Face.EnrollmentFile
import OneplusHal.Vibrator.Starts
import OneplusHal.Face.CameraRounds
import OneplusHal.Face.StAuthCalls
import OneplusHal.Face.CountedFrames
import OneplusHal.Face.Nv21Image
import OneplusHal.Lib.Picture
import OneplusHal.Face.RenderPreview
import OneplusHal.Face.EngineLives
import OneplusHal.Vibrator.Durations
import OneplusHal.Lib.Bytes
import OneplusHal.Face.SharedBuffer
import OneplusHal.Face.FaceIdFile
import OneplusHal.WifiMac.WifiMacGenerator
import OneplusHal.WifiMac.MacFile
import OneplusHal.Fwk.OpFeatures
import OneplusHal.Face.DetectRuns
import OneplusHal.Face.DetectArrays
import OneplusHal.AlertSlider.DialogAnimation
import OneplusHal.AlertSlider.SliderMoves
import OneplusHal.Doze.DozeSettings
import OneplusHal.Doze.FollowedSettings
import OneplusHal.Doze.Pulses
import OneplusHal.Face.TeeLedger
import OneplusHal.Face.TeeRelay
import OneplusHal.Face.TeeSessions
import OneplusHal.Fingerprint.BiometricsFingerprint
import OneplusHal.Fingerprint.Sequential
import OneplusHal.Face.Registry
import OneplusHal.Face.EngineFiles
import OneplusHal.Face.EngineCalls
import OneplusHal.Face.EngineInits
import OneplusHal.Vibrator.Interface
import OneplusHal.Vibrator.Levels
import OneplusHal.Vibrator.Probing
import OneplusHal.Face.Linearized
import OneplusHal.Face.FeatureTexts
import OneplusHal.Face.CameraCounts
import OneplusHal.Face.CameraLedger
