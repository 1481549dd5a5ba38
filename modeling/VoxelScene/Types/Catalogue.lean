import Std.Data.HashMap

/-!
Catalogues of cell types.

A catalogue gives each registered type the next free number; number 0 is reserved from the start. A
type is refused if its name is taken, if the numbers are used up, or if it refers to a texture that
the atlas does not have, checked in this order.
-/

namespace VoxelScene

/-- Why a type was refused, or a grid found to hold an unregistered one. -/
inductive TypeError where
  | duplicateName (name : String)
  | full (limit : Nat)
  | unknownTexture (name : String) (texture count : UInt16)
  | unknownVoxel (id : UInt16)
  | unknownLiquid (id : UInt8)
deriving DecidableEq, Repr

/-- The text shown for a type error. -/
def TypeError.message : TypeError → String
  | .duplicateName name => s!"duplicate type name: {name}"
  | .full limit => s!"type registry is full (max {limit} types)"
  | .unknownTexture name texture count =>
    s!"type {name} references texture {texture.toNat} but the atlas has {count.toNat} layers"
  | .unknownVoxel id => s!"unknown voxel type id {id.toNat}"
  | .unknownLiquid id => s!"unknown liquid type id {id.toNat}"

/-- What a catalogue needs to know of the types it holds, and of the words it numbers them with. -/
class Catalogued (α : Type) (ι : outParam Type) where
  name : α → String
  /-- Textures the type refers to, in the order in which they are checked. -/
  textures : α → List UInt16
  /-- The type with number 0. -/
  reserved : α
  /-- How many numbers there are. -/
  limit : Nat
  /-- The word of a place in the list of types, cut to its size. -/
  number : Nat → ι
  place : ι → Nat
  limit_pos : 0 < limit
  place_lt : ∀ i, place i < limit
  place_number : ∀ n, n < limit → place (number n) = n
  number_place : ∀ i, number (place i) = i

structure Catalogue (α ι : Type) where
  entries : Array α
  ids : Std.HashMap String ι
  textureCount : UInt16

namespace Catalogue

variable {α ι : Type} [Catalogued α ι]

/-- The catalogue that holds the reserved type only. -/
def withTextureCount (count : UInt16) : Catalogue α ι where
  entries := #[Catalogued.reserved]
  ids := (∅ : Std.HashMap String ι).insert (Catalogued.name (Catalogued.reserved (α := α)))
    (Catalogued.number α 0)
  textureCount := count

/-- A catalogue for the largest atlas. -/
def empty : Catalogue α ι := withTextureCount 65535

def size (c : Catalogue α ι) : Nat := c.entries.size

/-- Only the reserved type is registered. -/
def isEmpty (c : Catalogue α ι) : Bool := c.size ≤ 1

def get? (c : Catalogue α ι) (id : ι) : Option α := c.entries[Catalogued.place α id]?

def lookup? (c : Catalogue α ι) (name : String) : Option ι := c.ids[name]?

/-- Why a type cannot be registered now. -/
def refusal? (c : Catalogue α ι) (t : α) : Option TypeError :=
  let name := Catalogued.name t
  if c.ids.contains name then some (.duplicateName name)
  else if Catalogued.limit α ≤ c.size then some (.full (Catalogued.limit α))
  else ((Catalogued.textures t).find? (c.textureCount ≤ ·)).map fun texture =>
    .unknownTexture name texture c.textureCount

/-- The catalogue with a type under the next number. -/
def push : Catalogue α ι → α → Catalogue α ι
  | ⟨entries, ids, textureCount⟩, t =>
    let id := Catalogued.number α entries.size
    ⟨entries.push t, ids.insert (Catalogued.name t) id, textureCount⟩

/-- Registers a type under the next number. The catalogue comes back in either case. -/
def register (c : Catalogue α ι) (t : α) : Except TypeError ι × Catalogue α ι :=
  match c.refusal? t with
  | some e => (.error e, c)
  | none =>
    let id := Catalogued.number α c.size
    (.ok id, c.push t)

/-- Registers types in turn, whatever comes of each. -/
def registerEach (c : Catalogue α ι) : List α → List (Except TypeError ι) × Catalogue α ι
  | [] => ([], c)
  | t :: rest =>
    let (outcome, c) := c.register t
    let (outcomes, c) := c.registerEach rest
    (outcome :: outcomes, c)

/-- The catalogue of the listed types. -/
def ofList (ts : List α) : Catalogue α ι := ((empty : Catalogue α ι).registerEach ts).2

end Catalogue

end VoxelScene
