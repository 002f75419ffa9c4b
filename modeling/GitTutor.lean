import GitTutor.Main
import GitTutor.Proofs.Session.Atomicity
import GitTutor.Proofs.Workspace.MergeOutcome
import GitTutor.Proofs.Workspace.Preservation
import GitTutor.Proofs.Workspace.ThreeWay
import GitTutor.Proofs.Workspace.MergeBase
import GitTutor.Proofs.Merge.Places
import GitTutor.Proofs.Repository.Encoding
import GitTutor.Proofs.Workspace.Failure
import GitTutor.Proofs.Workspace.Resolution
import GitTutor.Proofs.Workspace.Pending
import GitTutor.Proofs.Session.Checkout
import GitTutor.Proofs.Workspace.EitherWay
import GitTutor.Proofs.Command.Rendering
import GitTutor.Proofs.Host.Run
import GitTutor.Proofs.Host.Replay
import GitTutor.Proofs.Host.Counting
import GitTutor.Proofs.Host.Agreement
import GitTutor.Proofs.Session.Switching
import GitTutor.Proofs.Session.Cloning
import GitTutor.Proofs.Session.Conflicts
import GitTutor.Proofs.Workspace.Checkout
import GitTutor.Proofs.Workspace.Journal
import GitTutor.Proofs.Text.ByteOrder
import GitTutor.Proofs.Workspace.Status
import GitTutor.Proofs.Session.Missions
import GitTutor.Proofs.Text.EditDistance
import GitTutor.Proofs.Command.Suggestion
import GitTutor.Proofs.Command.Tokens
import GitTutor.Proofs.Host.Pulling
import GitTutor.Proofs.Session.HintBlock
import GitTutor.Proofs.Lesson.Heading
import GitTutor.Proofs.Session.Framing
import GitTutor.Proofs.Session.Hints
