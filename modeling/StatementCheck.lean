import StatementCheck.Main
import StatementCheck.Reader.Session
import StatementCheck.Host.Tree
import StatementCheck.Proofs.Acceptance
import StatementCheck.Proofs.Header
import StatementCheck.Proofs.Prefix
import StatementCheck.Proofs.Expected
import StatementCheck.Proofs.Locality
import StatementCheck.Proofs.Role
import StatementCheck.Proofs.ExitCode
import StatementCheck.Proofs.Fatal
import StatementCheck.Proofs.Concatenation
import StatementCheck.Proofs.Sessions
import StatementCheck.Proofs.Reportable
import StatementCheck.Proofs.Diagnostics
import StatementCheck.Proofs.Independence
import StatementCheck.Proofs.Expressions
import StatementCheck.Proofs.TraceShape
import StatementCheck.Proofs.Messages
import StatementCheck.Proofs.Spacing
import StatementCheck.Proofs.Resolution
import StatementCheck.Proofs.Search
import StatementCheck.Proofs.Progress
import StatementCheck.Proofs.Quoting
import StatementCheck.Proofs.CommandLine
import StatementCheck.Proofs.Configs
