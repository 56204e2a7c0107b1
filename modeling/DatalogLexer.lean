import DatalogLexer.Unicode.Alphanumeric
import DatalogLexer.Unicode.Printable
import DatalogLexer.Text.Utf8
import DatalogLexer.Text.Quoted
import DatalogLexer.Token
import DatalogLexer.Machine
import DatalogLexer.Recognizer
import DatalogLexer.Scan
import DatalogLexer.Lexer
import DatalogLexer.Folder
import DatalogLexer.CommandLine
import DatalogLexer.Main
import DatalogLexer.Proofs.Runs
import DatalogLexer.Proofs.Reads
import DatalogLexer.Proofs.Longest
import DatalogLexer.Proofs.Front
import DatalogLexer.Proofs.Stream
import DatalogLexer.Proofs.Tiling
import DatalogLexer.Proofs.RoundTrip
import DatalogLexer.Proofs.Seam
import DatalogLexer.Proofs.Reports
import DatalogLexer.Proofs.Loop
import DatalogLexer.Proofs.Keywords
import DatalogLexer.Proofs.QuotedString
import DatalogLexer.Proofs.Printing
import DatalogLexer.Proofs.Iterations
