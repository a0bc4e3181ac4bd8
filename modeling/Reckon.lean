import Reckon.Main
import Reckon.Session
import Reckon.Proofs.Grammar
import Reckon.Proofs.Reading
import Reckon.Proofs.Pieces
import Reckon.Proofs.CharacterClasses
import Reckon.Proofs.Lexemes
import Reckon.Proofs.Locations
import Reckon.Proofs.LineNumbers
import Reckon.Proofs.LineByLine
import Reckon.Proofs.Written
import Reckon.Proofs.Failures
import Reckon.Proofs.Anchors
import Reckon.Proofs.Typing
import Reckon.Proofs.Stages
import Reckon.Proofs.Execution
import Reckon.Proofs.ParserRuns
import Reckon.Proofs.Interruptions
import Reckon.Proofs.Lookahead
import Reckon.Proofs.Recovery
import Reckon.Proofs.Logging
import Reckon.Proofs.Postorder
import Reckon.Proofs.Conversation
import Reckon.Proofs.Unplaced
import Reckon.Proofs.Respaced
import Reckon.Proofs.Room
import Reckon.Proofs.DepthLimit
import Reckon.Proofs.FlatArithmetic
import Reckon.Proofs.LiteralText
import Reckon.Proofs.Printed
import Reckon.Proofs.BlockLayout
import Reckon.Proofs.Boundaries
import Reckon.Proofs.CallDepth
import Reckon.Proofs.Doubles
import Reckon.Proofs.Rounding
import Reckon.Proofs.ReadBack
import Reckon.Proofs.Concatenation
import Reckon.Proofs.LineIndex
import Reckon.Proofs.ByteCursors
import Reckon.Proofs.InPlace
