import ChatShell.Main
import ChatShell.Chat.Mailbox
import ChatShell.Command.Script
import ChatShell.Output.Scalar
import ChatShell.Proofs.Parsing
import ChatShell.Proofs.Template
import ChatShell.Proofs.Attachments
import ChatShell.Proofs.Flow
import ChatShell.Proofs.Printing
import ChatShell.Proofs.Chats
import ChatShell.Proofs.Faults
import ChatShell.Proofs.Isolation
import ChatShell.Proofs.Fetching
import ChatShell.Proofs.ScanErrors
import ChatShell.Proofs.Grammar
import ChatShell.Proofs.Joining
import ChatShell.Proofs.Sessions
import ChatShell.Proofs.Reserved
import ChatShell.Proofs.Pipelines
import ChatShell.Proofs.Expansion
import ChatShell.Proofs.Rendering
import ChatShell.Proofs.Histories
import ChatShell.Proofs.Registrations
import ChatShell.Proofs.Positions
