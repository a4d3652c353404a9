import PageScript.Chrome.Driven
import PageScript.Main
import PageScript.Proofs.Capture.Captures
import PageScript.Proofs.Capture.Downloads
import PageScript.Proofs.Capture.Exactness
import PageScript.Proofs.Capture.Headers
import PageScript.Proofs.Capture.Placing
import PageScript.Proofs.Capture.Rereading
import PageScript.Proofs.Capture.Shutdown
import PageScript.Proofs.Chrome.Arrivals
import PageScript.Proofs.Chrome.Attempts
import PageScript.Proofs.Chrome.Pictures
import PageScript.Proofs.Job.Peeking
import PageScript.Proofs.Job.Respelling
import PageScript.Proofs.Lifecycle.Recording
import PageScript.Proofs.Model.Exchanges
import PageScript.Proofs.Model.Numbering
import PageScript.Proofs.Model.Reporting
import PageScript.Proofs.Model.Secrecy
import PageScript.Proofs.Model.SoundActions
import PageScript.Proofs.Model.Wrapping
import PageScript.Proofs.Program.ResultLine
import PageScript.Proofs.Report.Framing
import PageScript.Proofs.Run.Accounting
import PageScript.Proofs.Run.Finiteness
import PageScript.Proofs.Run.Pacing
import PageScript.Proofs.Run.Secrecy
import PageScript.Proofs.Script.Agreement
import PageScript.Proofs.Script.Grammar
import PageScript.Proofs.Script.Leniency
import PageScript.Proofs.Script.Normalization
import PageScript.Proofs.Script.ObjectText
import PageScript.Proofs.Target.Embedding
import PageScript.Proofs.Target.Spelling
import PageScript.Proofs.Text.Base64
import PageScript.Proofs.Text.Decoding
import PageScript.Proofs.Variables.Filling
