import LiveConfig.Demo
import LiveConfig.Json.Access
import LiveConfig.Rehearsal
import LiveConfig.Service.Reload
import LiveConfig.Teardown.Task
import LiveConfig.Text.Lines
import LiveConfig.Proofs.Container.Exits
import LiveConfig.Proofs.Container.Recording
import LiveConfig.Proofs.Container.Run
import LiveConfig.Proofs.Container.Draining
import LiveConfig.Proofs.Container.Commit
import LiveConfig.Proofs.Container.History
import LiveConfig.Proofs.FileTree.Nodes
import LiveConfig.Proofs.FileTree.Opening
import LiveConfig.Proofs.Logger.Making
import LiveConfig.Proofs.Logger.Live
import LiveConfig.Proofs.Text.Segments
import LiveConfig.Proofs.FileTree.Walking
import LiveConfig.Proofs.FileTree.Sound
import LiveConfig.Proofs.FileTree.Changing
import LiveConfig.Proofs.FileTree.Reading
import LiveConfig.Proofs.Change.Settling
import LiveConfig.Proofs.Change.Telling
import LiveConfig.Proofs.Change.Standing
import LiveConfig.Proofs.Store.Following
import LiveConfig.Proofs.Store.Confined
import LiveConfig.Proofs.Store.Converging
import LiveConfig.Proofs.Change.Bursts
import LiveConfig.Proofs.Slot.Waking
import LiveConfig.Proofs.Store.Ticking
import LiveConfig.Proofs.Container.Ending
import LiveConfig.Proofs.Service.Scripted
import LiveConfig.Proofs.Logger.Stream
import LiveConfig.Proofs.Numeral.Decimal
import LiveConfig.Proofs.Text.Trimmed
import LiveConfig.Proofs.EnvText.Document
import LiveConfig.Proofs.Store.Recovered
import LiveConfig.Proofs.Fleet.Basic
import LiveConfig.Proofs.Fleet.Again
import LiveConfig.Proofs.Container.Local
import LiveConfig.Proofs.Fleet.Order
import LiveConfig.Proofs.Store.Edited
import LiveConfig.Proofs.Http.Decoding
import LiveConfig.Proofs.Fleet.Replaced
import LiveConfig.Proofs.Schema.FirstFailure
import LiveConfig.Proofs.Teardown.Draining
import LiveConfig.Proofs.Store.Isolated
import LiveConfig.Proofs.Teardown.Exiting
import LiveConfig.Proofs.Schema.Order
import LiveConfig.Proofs.Store.Demanded
import LiveConfig.Proofs.Numeral.Grammar
import LiveConfig.Proofs.Json.Lexed
import LiveConfig.Proofs.Json.ReadBack
import LiveConfig.Proofs.Logger.Recorded
import LiveConfig.Proofs.Logger.Shadowed
import LiveConfig.Proofs.Container.Rounds
import LiveConfig.Proofs.Store.OneWatch
