import TypingTutor.Core.Program
import TypingTutor.Lib.Runs
import TypingTutor.Lib.StableTop
import TypingTutor.Proofs.ScorePersistence
import TypingTutor.Proofs.Actions
import TypingTutor.Lib.LineBreaking
import TypingTutor.Proofs.Layout
import TypingTutor.Proofs.Edits
import TypingTutor.Proofs.GameLedger
import TypingTutor.Proofs.Effects
import TypingTutor.Proofs.Swipes
import TypingTutor.Proofs.StaleBytes
import TypingTutor.Proofs.HeldPress
import TypingTutor.Proofs.SharedController
import TypingTutor.Lib.Compaction
import TypingTutor.Proofs.LineEditor
import TypingTutor.Proofs.Sessions
import TypingTutor.Core.Lifecycle
import TypingTutor.Lib.DoubleBuffer
import TypingTutor.Proofs.BottomLines
import TypingTutor.Proofs.Countdown
import TypingTutor.Proofs.Frames
import TypingTutor.Proofs.Lifetimes
import TypingTutor.Proofs.Panda
import TypingTutor.Proofs.WordWrap
import TypingTutor.Core.KeyboardPolling
import TypingTutor.Core.LineGesture
import TypingTutor.Core.MouseCommand
import TypingTutor.Core.MovingImage
import TypingTutor.Core.Pattern
import TypingTutor.Core.Rtc
import TypingTutor.Core.Video
import TypingTutor.Lib.Stopwatch
import TypingTutor.Proofs.Animation
import TypingTutor.Lib.BitField
import TypingTutor.Lib.Framing
import TypingTutor.Lib.Loop
import TypingTutor.Proofs.Caret
import TypingTutor.Proofs.ClockReading
import TypingTutor.Proofs.KeyboardPolling
import TypingTutor.Proofs.LineCounters
import TypingTutor.Proofs.MouseCommand
import TypingTutor.Proofs.MouseFraming
import TypingTutor.Proofs.MovingImage
import TypingTutor.Proofs.ScoreRecords
import TypingTutor.Proofs.ScoreRows
import TypingTutor.Proofs.Video
import TypingTutor.Proofs.Pattern
import TypingTutor.Proofs.PatternPainting
import TypingTutor.Core.Rendering
import TypingTutor.Proofs.Rendering
import TypingTutor.Proofs.Navigation
import TypingTutor.Proofs.FreshFrames
import TypingTutor.Proofs.Scoreboard
import TypingTutor.Core.Timer
import TypingTutor.Proofs.TimerFrequency
import TypingTutor.Proofs.WordTyping
import TypingTutor.Core.Startup
import TypingTutor.Proofs.Startup
import TypingTutor.Core.TestPrograms
import TypingTutor.Lib.Escape
import TypingTutor.Proofs.ScanPrograms
import TypingTutor.Proofs.TestPrograms
import TypingTutor.Core.MovingPicture
import TypingTutor.Core.Uart
import TypingTutor.Proofs.MovingPicture
import TypingTutor.Proofs.Uart
