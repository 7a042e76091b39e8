import Calculator.CommandLine.LogFilter
import Calculator.Grammar
import Calculator.Main
import Calculator.Proofs.BracketDepth
import Calculator.Proofs.Conservation
import Calculator.Proofs.Adjacency
import Calculator.Proofs.Grouping
import Calculator.Proofs.Outcome
import Calculator.Proofs.WellFormed
import Calculator.Proofs.Literals
import Calculator.Proofs.Meaning
import Calculator.Proofs.Nesting
import Calculator.Proofs.Substitution
import Calculator.Proofs.LongestMatch
import Calculator.Proofs.Conversation
import Calculator.Proofs.Dialogue
import Calculator.Proofs.Faults
import Calculator.Proofs.Truncation
import Calculator.Proofs.Prompts
import Calculator.Proofs.TextInput
import Calculator.Proofs.Replies
import Calculator.Proofs.Batches
import Calculator.Proofs.Agreement
import Calculator.Proofs.Interviews
import Calculator.Proofs.Counts
import Calculator.Proofs.UnreachableErrors
import Calculator.Proofs.OutputLines
import Calculator.Proofs.Continuation
import Calculator.Proofs.Recognition
import Calculator.Proofs.Spacing
import Calculator.Proofs.Layers
import Calculator.Proofs.LateLookup
import Calculator.Proofs.Separators
import Calculator.Proofs.Entries
import Calculator.Proofs.RpnLines
import Calculator.Proofs.ScriptRuns
import Calculator.Proofs.StackShape
import Calculator.Proofs.Padding
