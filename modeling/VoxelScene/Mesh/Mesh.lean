import VoxelScene.Geometry.Face
import VoxelScene.Number.Digest
import VoxelScene.Number.Word

/-!
Meshes of quads.

A mesh is three buffers that grow together. A quad adds its four corners to the vertices, two
triangles that refer to them by number, and what is known of its face. The number of a vertex is a
32-bit word: the count of the vertices before it, cut to that size.
-/

namespace VoxelScene

structure Quad (V F : Type) where
  face : F
  corners : Loop V
deriving DecidableEq

structure Mesh (V F : Type) where
  vertexBuffer : Array V
  /-- Three vertex numbers a triangle. -/
  indexBuffer : Array UInt32
  /-- One entry a quad. -/
  faceBuffer : Array F
deriving DecidableEq

namespace Mesh

variable {V F : Type}

def empty : Mesh V F := ⟨#[], #[], #[]⟩

def vertices (m : Mesh V F) : List V := m.vertexBuffer.toList

def indices (m : Mesh V F) : List UInt32 := m.indexBuffer.toList

def faces (m : Mesh V F) : List F := m.faceBuffer.toList

def quadCount (m : Mesh V F) : Nat := m.faceBuffer.size

def isEmpty (m : Mesh V F) : Bool := m.faceBuffer.isEmpty

/-- The two triangles of the quad whose vertices start at `base`. -/
def triangles (base : UInt32) : Checked (List UInt32) := do
  let second ← Word.addNumber base 1
  let third ← Word.addNumber base 2
  let fourth ← Word.addNumber base 3
  return [base, second, third, base, third, fourth]

/-- Adds a quad behind those that are there. -/
def push (m : Mesh V F) (q : Quad V F) : Checked (Mesh V F) := do
  let numbers ← triangles (.ofNat m.vertexBuffer.size)
  return {
    vertexBuffer := m.vertexBuffer ++ q.corners.toList
    indexBuffer := m.indexBuffer ++ numbers
    faceBuffer := m.faceBuffer.push q.face }

/-- The mesh of the quads, added one after the other. -/
def ofQuads (quads : List (Quad V F)) : Checked (Mesh V F) := quads.foldlM push empty

def indexDigest (m : Mesh V F) : Digest := m.indices.foldl Digest.word32 .start

end Mesh

end VoxelScene
