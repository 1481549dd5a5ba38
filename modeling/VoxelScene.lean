import VoxelScene.Fault
import VoxelScene.Number.Coord
import VoxelScene.Number.Word
import VoxelScene.Number.Digest
import VoxelScene.Number.Single
import VoxelScene.Geometry.Pos
import VoxelScene.Geometry.Corner
import VoxelScene.Geometry.RampMask
import VoxelScene.Geometry.Face
import VoxelScene.Cell.Voxel
import VoxelScene.Cell.Liquid
import VoxelScene.Chunk.Dims
import VoxelScene.Chunk.Address
import VoxelScene.Chunk.Grid
import VoxelScene.Chunk.Chunk
import VoxelScene.Types.Catalogue
import VoxelScene.Types.Voxel
import VoxelScene.Types.Liquid
import VoxelScene.World.Query
import VoxelScene.World.World
import VoxelScene.World.Ramp
import VoxelScene.Noise.Shuffle
import VoxelScene.Noise.Simplex
import VoxelScene.Noise.Jitter
import VoxelScene.Mesh.Mesh
import VoxelScene.Mesh.Mesher
import VoxelScene.Mesh.Exposure
import VoxelScene.Mesh.Solid
import VoxelScene.Mesh.Liquid
import VoxelScene.Mesh.Snapshot
import VoxelScene.Build.State
import VoxelScene.Build.Pipeline
import VoxelScene.Build.Store
import VoxelScene.Number.Decimal
import VoxelScene.Number.Shortest
import VoxelScene.Number.Notation
import VoxelScene.Mesh.Layout
import VoxelScene.Sprite.Blend
import VoxelScene.Sprite.Shader
import VoxelScene.Sprite.Sprite
import VoxelScene.Sprite.Depth
import VoxelScene.Sprite.Batch
import VoxelScene.Sprite.Species
import VoxelScene.Text.Alphanumeric
import VoxelScene.Text.CharSet
import VoxelScene.Text.Letters
import VoxelScene.Text.Pattern
import VoxelScene.Text.Printable
import VoxelScene.Text.Quoted
import VoxelScene.Text.Reader
import VoxelScene.Text.Scalar
import VoxelScene.Text.Value
import VoxelScene.Text.WhiteSpace
import VoxelScene.Settings.Settings
import VoxelScene.Settings.Format
import VoxelScene.Settings.File
import VoxelScene.Settings.CommandLine
import VoxelScene.Settings.LogFilter
import VoxelScene.Number.Total
import VoxelScene.Noise.Stream
import VoxelScene.Demo.Palette
import VoxelScene.Demo.Terrain
import VoxelScene.Demo.Grove
import VoxelScene.Demo.Report
import VoxelScene.Demo.Run
import VoxelScene.Demo.Session
import VoxelScene.Main
import VoxelScene.Proofs.Checked
import VoxelScene.Proofs.Lattice
import VoxelScene.Proofs.MeshReach
import VoxelScene.Proofs.Storage
import VoxelScene.Proofs.WorldChunks
import VoxelScene.Proofs.SnapshotView
import VoxelScene.Proofs.StoreSteps
import VoxelScene.Proofs.Version
import VoxelScene.Proofs.LiveMesh
import VoxelScene.Proofs.RampMasks
import VoxelScene.Proofs.Delivery
import VoxelScene.Proofs.Builds
import VoxelScene.Proofs.SceneSteps
import VoxelScene.Proofs.SingleFlight
import VoxelScene.Proofs.TaskCustody
import VoxelScene.Proofs.Forgetting
import VoxelScene.Proofs.SlicedMesh
import VoxelScene.Proofs.MeshTotal
import VoxelScene.Proofs.LiveSprites
import VoxelScene.Proofs.VisibleSprites
import VoxelScene.Proofs.SpeciesIsolation
import VoxelScene.Proofs.LastFrame
import VoxelScene.Proofs.CellMap
import VoxelScene.Proofs.Reloads
import VoxelScene.Proofs.RampOrder
import VoxelScene.Proofs.SolidFaces
import VoxelScene.Proofs.Atlas
import VoxelScene.Proofs.Seams
import VoxelScene.Proofs.ColumnDepth
import VoxelScene.Proofs.LiquidSurfaces
import VoxelScene.Proofs.SlopeCorners
import VoxelScene.Proofs.Cracks
import VoxelScene.Proofs.SingleBits
import VoxelScene.Proofs.WholeSingles
import VoxelScene.Proofs.DepthSelection
import VoxelScene.Proofs.VisiblePatch
import VoxelScene.Proofs.SurfaceJoins
import VoxelScene.Proofs.PublishOrder
import VoxelScene.Proofs.Pruning
import VoxelScene.Proofs.Registration
import VoxelScene.Proofs.ShortestDecimal
import VoxelScene.Proofs.NumberText
import VoxelScene.Proofs.QuotedText
import VoxelScene.Proofs.Readers
import VoxelScene.Proofs.SettingsText
import VoxelScene.Proofs.SettingsFile
import VoxelScene.Proofs.DemoWorld
import VoxelScene.Proofs.OpenGround
import VoxelScene.Proofs.Coordinates
