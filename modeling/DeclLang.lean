import DeclLang.Analysis.History
import DeclLang.Fixture.Journal
import DeclLang.Main
import DeclLang.Proofs.CharacterClass
import DeclLang.Viewer.Session
import DeclLang.Proofs.Numeral
import DeclLang.Proofs.FirstProduction
import DeclLang.Proofs.Lexeme
import DeclLang.Proofs.Reading
import DeclLang.Proofs.SinglePass
import DeclLang.Proofs.TokenTiling
import DeclLang.Proofs.ByteCursor
import DeclLang.Proofs.FirstFailure
import DeclLang.Proofs.StatementGrammar
import DeclLang.Proofs.PlainReading
import DeclLang.Proofs.Pieces
import DeclLang.Proofs.StatementTokens
import DeclLang.Proofs.StatementPattern
import DeclLang.Proofs.NormalForm
import DeclLang.Proofs.CleanAnalysis
import DeclLang.Proofs.CommentFree
import DeclLang.Proofs.StatementSplit
import DeclLang.Proofs.DeclarationOrder
import DeclLang.Proofs.RoundTrip
import DeclLang.Proofs.LineBreak
import DeclLang.Proofs.FirstUnreadable
import DeclLang.Proofs.Layout
import DeclLang.Proofs.BreakStyle
import DeclLang.Proofs.HeaderLine
import DeclLang.Proofs.PhasePrefix
import DeclLang.Proofs.ViewerSession
import DeclLang.Proofs.CheckedTree
import DeclLang.Proofs.NumberShape
import DeclLang.Proofs.LiteralToken
import DeclLang.Proofs.IntegerValue
import DeclLang.Proofs.LiteralInitialiser
import DeclLang.Proofs.DigitScript
import DeclLang.Proofs.ProgramSeam
import DeclLang.Proofs.CommentRanges
import DeclLang.Proofs.Highlighting
import DeclLang.Proofs.HeaderFormat
import DeclLang.Proofs.DirectoryRun
import DeclLang.Proofs.RunAll
import DeclLang.Proofs.DrawnFrame
import DeclLang.Proofs.RefusedKey
import DeclLang.Proofs.LocatedLine
import DeclLang.Proofs.DrawnOutline
import DeclLang.Proofs.OutlineListing
import DeclLang.Proofs.LongestMatch
import DeclLang.Proofs.LiteralPattern
import DeclLang.Proofs.ShapeOrder
import DeclLang.Proofs.ScrollWindow
