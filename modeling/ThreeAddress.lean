import ThreeAddress.Listing
import ThreeAddress.Lowering.Program
import ThreeAddress.NameTable
import ThreeAddress.Proofs.Checker
import ThreeAddress.Proofs.Preservation
import ThreeAddress.Proofs.Temporaries
import ThreeAddress.Proofs.Allocation
import ThreeAddress.Proofs.AppendOnly
import ThreeAddress.Proofs.Closedness
import ThreeAddress.Proofs.Calls
import ThreeAddress.Proofs.Relocation
import ThreeAddress.Proofs.Exchange
import ThreeAddress.Proofs.Stripping
import ThreeAddress.Proofs.Reading
import ThreeAddress.Proofs.Outline
import ThreeAddress.Proofs.Unambiguous
import ThreeAddress.Proofs.Operations
import ThreeAddress.Proofs.Contents
import ThreeAddress.Proofs.EvaluationOrder
import ThreeAddress.Proofs.Renaming
import ThreeAddress.Proofs.SharedNames
import ThreeAddress.Proofs.Equivariance
import ThreeAddress.Proofs.CallEffects
import ThreeAddress.Proofs.OperandReads
import ThreeAddress.Proofs.BackEdges
import ThreeAddress.Proofs.TypeTexts
import ThreeAddress.Proofs.PoolOrder
import ThreeAddress.Proofs.NoFaults
import ThreeAddress.Proofs.Account
import ThreeAddress.Proofs.Counters
