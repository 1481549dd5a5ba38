/-!
How sprites are combined with what is drawn already.
-/

namespace VoxelScene

inductive BlendMode where
  /-- Replaces what is there. -/
  | replace
  | alpha
  | additive
deriving DecidableEq, Repr, Inhabited

inductive BlendFactor where
  | one
  | sourceAlpha
  | oneMinusSourceAlpha
deriving DecidableEq, Repr

def BlendFactor.name : BlendFactor → String
  | .one => "One"
  | .sourceAlpha => "SrcAlpha"
  | .oneMinusSourceAlpha => "OneMinusSrcAlpha"

/-- Both parts are weighted and added. -/
structure BlendComponent where
  source : BlendFactor
  target : BlendFactor
deriving DecidableEq, Repr

structure BlendState where
  color : BlendComponent
  alpha : BlendComponent
deriving DecidableEq, Repr

namespace BlendMode

def all : List BlendMode := [.replace, .alpha, .additive]

def name : BlendMode → String
  | .replace => "Opaque"
  | .alpha => "Alpha"
  | .additive => "Additive"

/-- The mode with a given name. -/
def named? (s : String) : Option BlendMode := all.find? fun m => m.name = s

/-- The source over the target. -/
def overlay : BlendComponent := ⟨.one, .oneMinusSourceAlpha⟩

def state : BlendMode → Option BlendState
  | .replace => none
  | .alpha => some ⟨⟨.sourceAlpha, .oneMinusSourceAlpha⟩, overlay⟩
  | .additive => some ⟨⟨.sourceAlpha, .one⟩, overlay⟩

end BlendMode

end VoxelScene
