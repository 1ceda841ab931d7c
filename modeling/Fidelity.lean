import Fidelity.Main
import Fidelity.Command.Folder
import Fidelity.Proofs.Edit.Exact
import Fidelity.Proofs.Edit.Score
import Fidelity.Proofs.Edit.Metric
import Fidelity.Proofs.Edit.Degradation
import Fidelity.Proofs.Report.WordScores
import Fidelity.Proofs.Report.Lengths
import Fidelity.Proofs.Text.Fragments
import Fidelity.Proofs.Text.Rejoining
import Fidelity.Proofs.Text.Collapse
import Fidelity.Proofs.Bag.Cursor
import Fidelity.Proofs.Bag.Standing
import Fidelity.Proofs.Bag.Balance
import Fidelity.Proofs.Bag.Tokens
import Fidelity.Proofs.Bag.Seam
import Fidelity.Proofs.Bag.Blocks
import Fidelity.Proofs.Bag.Direction
import Fidelity.Proofs.Bag.Perfect
import Fidelity.Proofs.Edit.Affix
import Fidelity.Proofs.Edit.Mirror
import Fidelity.Proofs.Edit.Subsequence
import Fidelity.Proofs.Edit.Reweighing
import Fidelity.Proofs.Edit.Course
import Fidelity.Proofs.Command.FirstFailure
import Fidelity.Proofs.Json.RoundTrip
import Fidelity.Proofs.Text.PreparationOrder
import Fidelity.Proofs.Command.WeightGrammar
import Fidelity.Proofs.Json.ConfigText
import Fidelity.Proofs.Command.Words
