import ChainShell.LineReader.Plain
import ChainShell.Machine.Setup
import ChainShell.Main
import ChainShell.Proofs.Text.Blanks
import ChainShell.Proofs.Text.Lines
import ChainShell.Proofs.Text.Breaks
import ChainShell.Proofs.Text.Utf8
import ChainShell.Proofs.Text.Markup
import ChainShell.Proofs.Text.Wrap
import ChainShell.Proofs.Number.Numeral
import ChainShell.Proofs.LineReader.Script
import ChainShell.Proofs.LineReader.Plain
import ChainShell.Proofs.LineReader.Chunked
import ChainShell.Proofs.Chain.Grammar
import ChainShell.Proofs.Chain.Reading
import ChainShell.Proofs.Chain.RoundTrip
import ChainShell.Proofs.Chain.Concatenation
import ChainShell.Proofs.FileTree.Canonical
import ChainShell.Proofs.FileTree.Resolution
import ChainShell.Proofs.FileTree.Afresh
import ChainShell.Proofs.Log.Configuration
import ChainShell.Proofs.Diagnostics
import ChainShell.Proofs.Settings
import ChainShell.Proofs.Course
import ChainShell.Proofs.Session.Run
import ChainShell.Proofs.Session.Exit
import ChainShell.Proofs.Session.Faults
import ChainShell.Proofs.Session.Failures
import ChainShell.Proofs.Session.Directory
import ChainShell.Proofs.Session.Travel
import ChainShell.Proofs.Session.Links
import ChainShell.Proofs.Session.Places
import ChainShell.Proofs.Session.Stop
import ChainShell.Proofs.Session.Calls
import ChainShell.Proofs.Session.Listing
import ChainShell.Proofs.Session.Telling
import ChainShell.Proofs.Loop.Lines
import ChainShell.Proofs.Loop.Replay
import ChainShell.Proofs.Loop.Faults
import ChainShell.Proofs.Loop.Grouping
import ChainShell.Proofs.Loop.Reports
import ChainShell.Proofs.Loop.Exit
import ChainShell.Proofs.Loop.ExitCode
import ChainShell.Proofs.Loop.Insertion
import ChainShell.Proofs.Loop.Telling
import ChainShell.Proofs.Shell.Start
import ChainShell.Proofs.Shell.Input
import ChainShell.Proofs.Shell.Reporting
