import EdgeInclude.Http
import EdgeInclude.Library.Standard
import EdgeInclude.Processor
import EdgeInclude.Proofs.Assignment
import EdgeInclude.Proofs.Condition.Literal
import EdgeInclude.Proofs.Indexed.Document
import EdgeInclude.Proofs.Library.Faults
import EdgeInclude.Proofs.Library.Positions
import EdgeInclude.Proofs.Markup.LetterCase
import EdgeInclude.Proofs.Plan.Choice
import EdgeInclude.Proofs.Plan.Queue
import EdgeInclude.Proofs.RequestPath
import EdgeInclude.Proofs.Run.Bodies
import EdgeInclude.Proofs.Run.Layers
import EdgeInclude.Proofs.Run.Protocol
import EdgeInclude.Proofs.Run.Recovery
import EdgeInclude.Proofs.Run.SourceUrl
import EdgeInclude.Proofs.Run.Wrapper
import EdgeInclude.RequestPath
