import LogTable.Main
import LogTable.Session
import LogTable.Listing
import LogTable.Proofs.Batch.Ids
import LogTable.Proofs.Containment
import LogTable.Proofs.Scenario
import LogTable.Proofs.Secrecy
import LogTable.Proofs.PlanFailure
import LogTable.Proofs.Alike
import LogTable.Proofs.FreshStart
import LogTable.Proofs.FileTree.Free
import LogTable.Proofs.Table.Room
import LogTable.Proofs.FailedOperation
import LogTable.Proofs.Table.Complete
import LogTable.Proofs.Turns
import LogTable.Proofs.Representation
import LogTable.Proofs.Table.Lockstep
import LogTable.Proofs.Journal
import LogTable.Proofs.Lines
import LogTable.Proofs.Output
import LogTable.Proofs.FileTree.Visits
import LogTable.Proofs.Table.Agreement
import LogTable.Proofs.Neutrality
import LogTable.Proofs.Table.SameTable
import LogTable.Proofs.Independence
import LogTable.Proofs.Batch.Outcome
import LogTable.Proofs.TableNames
import LogTable.Proofs.AllOrNothing
import LogTable.Proofs.Accounting
import LogTable.Proofs.Batch.Starts
import LogTable.Proofs.Config.Effective
import LogTable.Proofs.Storage
import LogTable.Proofs.FileCount
import LogTable.Proofs.FailingDelete
