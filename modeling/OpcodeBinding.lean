import OpcodeBinding.Machine
import OpcodeBinding.Main
import OpcodeBinding.Proofs.Admission
import OpcodeBinding.Proofs.Alignment
import OpcodeBinding.Proofs.BindingOrder
import OpcodeBinding.Proofs.Commands
import OpcodeBinding.Proofs.Compatibility
import OpcodeBinding.Proofs.Consistency
import OpcodeBinding.Proofs.DecimalText
import OpcodeBinding.Proofs.Distribution
import OpcodeBinding.Proofs.FirstBindings
import OpcodeBinding.Proofs.Growth
import OpcodeBinding.Proofs.Independence
import OpcodeBinding.Proofs.InstallationOrder
import OpcodeBinding.Proofs.Journal
import OpcodeBinding.Proofs.Numerals
import OpcodeBinding.Proofs.OperandDisplay
import OpcodeBinding.Proofs.PublicationHistory
import OpcodeBinding.Proofs.ReferenceLayout
import OpcodeBinding.Proofs.ReferenceText
import OpcodeBinding.Proofs.ReferenceTool
import OpcodeBinding.Proofs.Replay
import OpcodeBinding.Proofs.Respelling
import OpcodeBinding.Proofs.Rounding
import OpcodeBinding.Proofs.Scripts
import OpcodeBinding.Proofs.ShortestDecimal
import OpcodeBinding.Proofs.SingleText
import OpcodeBinding.Proofs.Spelling
import OpcodeBinding.Proofs.WorldHistory
