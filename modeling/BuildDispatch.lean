import BuildDispatch.Service
import BuildDispatch.Event
import BuildDispatch.Cause.Inspect
import BuildDispatch.Worker.Run
import BuildDispatch.Worker.Directory
import BuildDispatch.Worker.Settings
import BuildDispatch.Supervisor.Run
import BuildDispatch.FileLock.Pulse
import BuildDispatch.Daemon.Startup
import BuildDispatch.Host
import BuildDispatch.Proofs.Board.AtMostOnce
import BuildDispatch.Proofs.Board.Conservation
import BuildDispatch.Proofs.Board.History
import BuildDispatch.Proofs.Board.Cancellation
import BuildDispatch.Proofs.Board.OldestFirst
import BuildDispatch.Proofs.Board.Redelivery
import BuildDispatch.Proofs.Board.WriteThrough
import BuildDispatch.Proofs.Dispatcher.Cookie
import BuildDispatch.Proofs.Dispatcher.Approval
import BuildDispatch.Proofs.Dispatcher.Instruction
import BuildDispatch.Proofs.Dispatcher.Names
import BuildDispatch.Proofs.Scheduler.OneAtATime
import BuildDispatch.Proofs.Message.Call
import BuildDispatch.Proofs.FileLock.Exclusion
import BuildDispatch.Proofs.FileLock.Displaced
import BuildDispatch.Proofs.Supervisor.Verified
import BuildDispatch.Proofs.Supervisor.Restarts
import BuildDispatch.Proofs.Supervisor.UnderLock
import BuildDispatch.Proofs.Worker.Conversation
import BuildDispatch.Proofs.Worker.Innocence
import BuildDispatch.Proofs.Worker.JobEnds
import BuildDispatch.Proofs.Board.Fields
import BuildDispatch.Proofs.Board.Independence
import BuildDispatch.Proofs.Daemon.OneDispatcher
import BuildDispatch.Proofs.Host.Upgrade
import BuildDispatch.Proofs.Roster.Status
import BuildDispatch.Proofs.Dispatcher.Revisions
import BuildDispatch.Proofs.Config.FirstFault
import BuildDispatch.Proofs.Worker.Tasks
import BuildDispatch.Proofs.Dispatcher.Variables
import BuildDispatch.Proofs.Cause.Inspect
import BuildDispatch.Proofs.FileLock.Foreign
import BuildDispatch.Proofs.Payload
import BuildDispatch.Proofs.Supervisor.Attempts
import BuildDispatch.Proofs.Board.Listing
import BuildDispatch.Proofs.Worker.Directory
import BuildDispatch.Proofs.Repository
