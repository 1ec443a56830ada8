import AbapPerf.Request
import AbapPerf.Validation
import AbapPerf.Proofs.Matching
import AbapPerf.Proofs.Hits
import AbapPerf.Proofs.Lines
import AbapPerf.Proofs.Analyze
import AbapPerf.Proofs.Relocate
import AbapPerf.Proofs.Split
import AbapPerf.Proofs.Comments
import AbapPerf.Proofs.Faults
import AbapPerf.Proofs.Laminar
import AbapPerf.Proofs.Nested
import AbapPerf.Proofs.Selects
import AbapPerf.Proofs.Remediate
import AbapPerf.Proofs.Newlines
import AbapPerf.Proofs.Excerpt
import AbapPerf.Proofs.Causal
