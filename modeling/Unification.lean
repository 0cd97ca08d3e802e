import Unification.Config.Text
import Unification.SymbolTree
import Unification.Substitution.Resolve
import Unification.Term.Call
import Unification.Term.Display
import Unification.Term.Dump
import Unification.Term.Unifiable
import Unification.Unifier.Levels
import Unification.Unifier.OccursCheck
import Unification.VarSupply
import Unification.Proofs.Chain
import Unification.Proofs.Derivation
import Unification.Proofs.Growth
import Unification.Proofs.Bindings
import Unification.Proofs.Sequence
import Unification.Proofs.Built
import Unification.Proofs.ValueEquality
import Unification.Proofs.Replacement
import Unification.Proofs.Expansion
import Unification.Proofs.Solution
import Unification.Proofs.Soundness
import Unification.Proofs.Unfolding
import Unification.Proofs.InfiniteTree
import Unification.Proofs.Descent
import Unification.Proofs.FiniteSolution
import Unification.Proofs.VariableClasses
import Unification.Proofs.OpenClasses
import Unification.Proofs.Simulation
import Unification.Proofs.LevelBound
import Unification.Proofs.Symmetry
import Unification.Proofs.Layering
import Unification.Proofs.OccursCheck
import Unification.Proofs.Contract
import Unification.Proofs.DepthLimit
import Unification.Proofs.Locality
import Unification.Proofs.OrderIndependence
import Unification.Proofs.EventLog
import Unification.Proofs.Renaming
import Unification.Proofs.NoNewBinding
import Unification.Proofs.GroundMatching
import Unification.Proofs.FieldPairs
import Unification.Proofs.Lists
import Unification.Proofs.ResolvedVariables
import Unification.Proofs.WalkBound
import Unification.Proofs.ResolutionLaws
import Unification.Proofs.CycleRepair
import Unification.Proofs.ComparisonLaws
import Unification.Proofs.IssueOrder
import Unification.Proofs.DecimalDigits
import Unification.Proofs.CanonicalDisplay
import Unification.Proofs.DecimalRounding
import Unification.Proofs.Numeral
import Unification.Proofs.GeneralNotation
import Unification.Proofs.SettingText
