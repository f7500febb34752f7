import Launcher.Launch
import Launcher.Log.Line
import Launcher.Main
import Launcher.Session
import Launcher.Proofs.CommandLine.Endings
import Launcher.Proofs.CommandLine.Grammar
import Launcher.Proofs.CommandLine.Reading
import Launcher.Proofs.Directory
import Launcher.Proofs.Directory.Attempts
import Launcher.Proofs.Directory.Parents
import Launcher.Proofs.Environment
import Launcher.Proofs.Machine.Spelling
import Launcher.Proofs.PartialFile
import Launcher.Proofs.Record
import Launcher.Proofs.ReportRows
import Launcher.Proofs.Run.Alike
import Launcher.Proofs.Run.Spelling
import Launcher.Proofs.Run.Steady
import Launcher.Proofs.Run.Stops
import Launcher.Proofs.Run.WorkingDirectory
import Launcher.Proofs.Screen
import Launcher.Proofs.Launch.Alike
import Launcher.Proofs.Launch.Breaks
import Launcher.Proofs.Launch.Ends
import Launcher.Proofs.Launch.Execution
import Launcher.Proofs.Launch.Faultless
import Launcher.Proofs.Launch.Frame
import Launcher.Proofs.Launch.LastCommand
import Launcher.Proofs.Launch.Order
import Launcher.Proofs.Launch.LostRecord
import Launcher.Proofs.Launch.PartialRecord
import Launcher.Proofs.Launch.Reporting
import Launcher.Proofs.Launch.Steady
import Launcher.Proofs.Launch.WorkingDirectory
import Launcher.Proofs.Session.Delegation
import Launcher.Proofs.Session.DirectoryMode
import Launcher.Proofs.Session.ExitCodes
import Launcher.Proofs.Session.Frame
import Launcher.Proofs.Session.History
import Launcher.Proofs.Session.LastCommand
import Launcher.Proofs.Session.Likeness
import Launcher.Proofs.Session.LogLevel
import Launcher.Proofs.Session.LostRecord
import Launcher.Proofs.Session.PartialRecord
import Launcher.Proofs.Session.Questions
import Launcher.Proofs.Session.Reporting
import Launcher.Proofs.Session.Spelling
import Launcher.Proofs.Session.TakeOver
import Launcher.Proofs.Session.WorkingDirectory
import Launcher.Proofs.Directory.Again
import Launcher.Proofs.WholeFile.Replacing
import Launcher.Proofs.WholeFile.AllOrNothing
import Launcher.Proofs.WholeFile.Reading
import Launcher.Proofs.Report.Colour
import Launcher.Proofs.Report.Layout
import Launcher.Proofs.Report.Lossless
import Launcher.Proofs.Session.UnclosedRecord
import Launcher.Proofs.Report.Command
import Launcher.Proofs.Directory.Absolute
import Launcher.Proofs.User
import Launcher.Proofs.Port
import Launcher.Proofs.Settings
