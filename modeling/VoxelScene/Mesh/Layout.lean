import VoxelScene.Number.Total

/-!
Buffer layouts.

A layout tells where each attribute of a vertex or an instance lies in its buffer.
-/

namespace VoxelScene

inductive AttributeFormat where
  | single
  | single2
  | single3
  | single4
  /-- Four bytes that stand for 0 to 1. -/
  | unit4
  | word
deriving DecidableEq, Repr

namespace AttributeFormat

def size : AttributeFormat → Nat
  | .single | .unit4 | .word => 4
  | .single2 => 8
  | .single3 => 12
  | .single4 => 16

def name : AttributeFormat → String
  | .single => "Float32"
  | .single2 => "Float32x2"
  | .single3 => "Float32x3"
  | .single4 => "Float32x4"
  | .unit4 => "Unorm8x4"
  | .word => "Uint32"

end AttributeFormat

/-- Whether a buffer advances with each vertex or with each instance. -/
inductive StepMode where
  | vertex
  | instance'
deriving DecidableEq, Repr

def StepMode.name : StepMode → String
  | .vertex => "Vertex"
  | .instance' => "Instance"

structure Attribute where
  location : Nat
  offset : Nat
  format : AttributeFormat
deriving DecidableEq, Repr

structure BufferLayout where
  stride : Nat
  step : StepMode
  attributes : List Attribute
deriving DecidableEq, Repr

namespace BufferLayout

/-- The attributes one after the other, with locations counted from `location`. -/
def place (location offset : Nat) : List AttributeFormat → List Attribute
  | [] => []
  | f :: rest => ⟨location, offset, f⟩ :: place (location + 1) (offset + f.size) rest

/-- A layout without gaps. -/
def packed (step : StepMode) (location : Nat) (formats : List AttributeFormat) : BufferLayout :=
  ⟨total (formats.map AttributeFormat.size), step, place location 0 formats⟩

/-- Position, normal, texture coordinates, colour, texture. -/
def solid : BufferLayout := packed .vertex 0 [.single3, .single3, .single2, .unit4, .word]

/-- Position, normal, texture coordinates, foam, flow, texture. -/
def liquid : BufferLayout :=
  packed .vertex 0 [.single3, .single3, .single2, .single, .single2, .word]

/-- The four columns of the placement, then the tint. -/
def sprite : BufferLayout := packed .instance' 2 [.single4, .single4, .single4, .single4, .single4]

end BufferLayout

end VoxelScene
