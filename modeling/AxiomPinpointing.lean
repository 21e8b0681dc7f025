import AxiomPinpointing.Main
import AxiomPinpointing.WeightedFormula.Reader
import AxiomPinpointing.Proofs.Assignment
import AxiomPinpointing.Proofs.Encoding
import AxiomPinpointing.Proofs.Warnings
import AxiomPinpointing.Proofs.Truthfulness
import AxiomPinpointing.Proofs.Border
import AxiomPinpointing.Proofs.Optimum
import AxiomPinpointing.Proofs.Justification
import AxiomPinpointing.Proofs.Numeral
import AxiomPinpointing.Proofs.Words
import AxiomPinpointing.Proofs.Trimming
import AxiomPinpointing.Proofs.Lines
import AxiomPinpointing.Proofs.ClauseText
import AxiomPinpointing.Proofs.WeightedText
import AxiomPinpointing.Proofs.FormulaText
import AxiomPinpointing.Proofs.DefinitionStore
import AxiomPinpointing.Proofs.Identifiers
import AxiomPinpointing.Proofs.Arrivals
import AxiomPinpointing.Proofs.ModuleLine
import AxiomPinpointing.Proofs.ModuleLoop
import AxiomPinpointing.Proofs.Lifecycle
import AxiomPinpointing.Proofs.PairStrategies
import AxiomPinpointing.Proofs.TextualExtraction
import AxiomPinpointing.Proofs.EntryLines
import AxiomPinpointing.Proofs.RenumberingText
import AxiomPinpointing.Proofs.Reversibility
import AxiomPinpointing.Proofs.Reencoding
import AxiomPinpointing.Proofs.Writing
import AxiomPinpointing.Proofs.SharedDirectory
import AxiomPinpointing.Proofs.Interleaving
import AxiomPinpointing.Proofs.Overwriting
import AxiomPinpointing.Proofs.ClauseSource
import AxiomPinpointing.Proofs.AssumptionLayouts
import AxiomPinpointing.Proofs.Exactness
import AxiomPinpointing.Proofs.Strictness
import AxiomPinpointing.Proofs.DataFaults
import AxiomPinpointing.Proofs.Commands
import AxiomPinpointing.Proofs.Fragment
import AxiomPinpointing.Proofs.Pipeline
import AxiomPinpointing.Proofs.WeightedSource
import AxiomPinpointing.Proofs.ConverseLines
import AxiomPinpointing.Proofs.TermRuns
import AxiomPinpointing.Proofs.Calls
