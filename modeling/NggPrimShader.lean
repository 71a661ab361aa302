import NggPrimShader.Basic
import NggPrimShader.Wave.Ballot
import NggPrimShader.Wave.Compaction
import NggPrimShader.Gs.EmitCut
import NggPrimShader.Gs.PrimData
import NggPrimShader.Gs.VertexCompaction
import NggPrimShader.Cull.Geometry
import NggPrimShader.Cull.Frustum
import NggPrimShader.Cull.Sphere
import NggPrimShader.Cull.BoxFilter
import NggPrimShader.Cull.SmallPrimFilter
import NggPrimShader.Es.CullInfo
import NggPrimShader.Es.Culling
import NggPrimShader.Es.PartEs
import NggPrimShader.Lds.Phases
import NggPrimShader.Lds.Layout
import NggPrimShader.Xfb.Reservation
import NggPrimShader.Xfb.Export
import NggPrimShader.Xfb.EsStaging
import NggPrimShader.Xfb.GsStaging
import NggPrimShader.Xfb.Capture
import NggPrimShader.Cull.CullDistance
import NggPrimShader.Cull.Backface
import NggPrimShader.Cull.Chain
import NggPrimShader.Mesh.Barrier
import NggPrimShader.Mesh.PrimitiveIndices
import NggPrimShader.Mesh.Outputs
import NggPrimShader.Mesh.Dispatch
import NggPrimShader.Mesh.Payload
import NggPrimShader.Mesh.Lds
import NggPrimShader.Mesh.Export
import NggPrimShader.Mesh.AttribRing
