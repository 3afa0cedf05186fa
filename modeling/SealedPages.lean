import SealedPages.Script.Pages
import SealedPages.Proofs.CallOrder
import SealedPages.Proofs.AtRest
import SealedPages.Proofs.EveryMoment
import SealedPages.Proofs.PairedBuffers
import SealedPages.Proofs.PairedCalls
import SealedPages.Proofs.PairedSessions
import SealedPages.Proofs.Frame
import SealedPages.Proofs.Contents
import SealedPages.Proofs.Deposits
import SealedPages.Proofs.Denials
import SealedPages.Proofs.Accounts
import SealedPages.Proofs.Twins
import SealedPages.Proofs.Secrecy
import SealedPages.Proofs.Independence
import SealedPages.Proofs.Comparison
import SealedPages.Proofs.Portability
import SealedPages.Proofs.BestEffort
import SealedPages.Proofs.Outcomes
import SealedPages.Proofs.Blindness
import SealedPages.Proofs.Mirroring
import SealedPages.Proofs.DestroyedHandles
import SealedPages.Proofs.Creations
import SealedPages.Proofs.ReadOutputs
import SealedPages.Proofs.Traps
import SealedPages.Proofs.DestroyedBuffers
import SealedPages.Proofs.ReadForms
import SealedPages.Proofs.BufferSizes
import SealedPages.Proofs.RefusalLines
import SealedPages.Proofs.FailureReports
import SealedPages.Proofs.Multiples
import SealedPages.Proofs.ResultCodes
import SealedPages.Proofs.PageAllocations
import SealedPages.Proofs.PartPins
