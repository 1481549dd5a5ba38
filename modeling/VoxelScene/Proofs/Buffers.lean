import VoxelScene.Mesh.Mesh
import VoxelScene.Proofs.Checked
import VoxelScene.Proofs.Storage

/-!
The buffers of a mesh.

Quads are pushed one after the other, each numbered from the count of the vertices before it. That
count stays a multiple of four, so the four numbers of a quad never run over the end of the word and
`ofQuads` never faults. As long as the vertices can be counted in 32 bits, the quad in place `i` has
the numbers `4 * i` to `4 * i + 3`.
-/

namespace VoxelScene

theorem take_drop_flatMap {α β : Type} {f : α → List β} {n : Nat} (hlen : ∀ x, (f x).length = n)
    {xs : List α} {i : Nat} {x : α} (h : xs[i]? = some x) :
    ((xs.flatMap f).drop (n * i)).take n = f x := by
  induction xs generalizing i with
  | nil => simp at h
  | cons z xs ih =>
    rw [List.flatMap_cons]
    cases i with
    | zero =>
      obtain rfl : z = x := by simpa using h
      rw [Nat.mul_zero, List.drop_zero, List.take_append_of_le_length (Nat.le_of_eq (hlen z).symm),
        List.take_of_length_le (Nat.le_of_eq (hlen z))]
    | succ i =>
      have hsize : n * (i + 1) = (f z).length + n * i := by
        rw [hlen, Nat.mul_succ, Nat.add_comm]
      rw [hsize, List.drop_append, Nat.add_sub_cancel_left, List.drop_of_length_le (by omega),
        List.nil_append]
      exact ih (by simpa using h)

theorem Word.addNumber_eq_ok {a b : UInt32} (h : a.toNat + b.toNat < depthBound) :
    addNumber a b = .ok (a + b) := if_pos h

namespace Mesh

variable {V F : Type} {qs : List (Quad V F)} {i : Nat}

/-! ### Pushes -/

/-- The vertex numbers of the quad in place `i`. -/
def numbers (i : Nat) : List UInt32 := [0, 1, 2, 0, 2, 3].map fun k => .ofNat (4 * i + k)

/-- The buffers that a list of quads fills. -/
def filled (qs : List (Quad V F)) : Mesh V F where
  vertexBuffer := (qs.flatMap fun q => q.corners.toList).toArray
  indexBuffer := ((List.range qs.length).flatMap numbers).toArray
  faceBuffer := (qs.map (·.face)).toArray

theorem size_vertexBuffer_filled (qs : List (Quad V F)) :
    (filled qs).vertexBuffer.size = 4 * qs.length :=
  length_flatMap_const (fun q => q.corners.length_toList) qs

theorem triangles_ofNat (i : Nat) : triangles (.ofNat (4 * i)) = .ok (numbers i) := by
  -- The count of the vertices is a multiple of four, and so is the length of the word.
  have hroom (k : UInt32) (hk : k.toNat < 4) :
      Word.addNumber (.ofNat (4 * i)) k = .ok (.ofNat (4 * i) + k) := by
    apply Word.addNumber_eq_ok
    rw [UInt32.toNat_ofNat', Word.depthBound]
    omega
  rw [triangles, hroom 1 (by decide), hroom 2 (by decide), hroom 3 (by decide), numbers]
  simp [UInt32.ofNat_add, pure, Except.pure, bind, Except.bind]

theorem push_filled (qs : List (Quad V F)) (q : Quad V F) :
    (filled qs).push q = .ok (filled (qs ++ [q])) := by
  rw [push, size_vertexBuffer_filled, triangles_ofNat, Checked.ok_bind]
  simp [filled, List.range_succ, pure, Except.pure]

theorem ofQuads_eq_ok (qs : List (Quad V F)) : ofQuads qs = .ok (filled qs) := by
  have pushes (ps : List (Quad V F)) : qs.foldlM push (filled ps) = .ok (filled (ps ++ qs)) := by
    induction qs generalizing ps with
    | nil =>
      rw [List.append_nil]
      rfl
    | cons q qs ih =>
      rw [List.foldlM_cons, push_filled, Checked.ok_bind, ih, List.append_assoc]
      rfl
  exact pushes []

/-! ### The quads behind the buffers -/

/-- The vertices, four by four. -/
def loops : List V → List (Loop V)
  | a :: b :: c :: d :: rest => ⟨a, b, c, d⟩ :: loops rest
  | _ => []

/-- Each face with its four vertices. -/
def quads (m : Mesh V F) : List (Quad V F) := List.zipWith Quad.mk m.faces (loops m.vertices)

@[simp] theorem vertices_filled (qs : List (Quad V F)) :
    (filled qs).vertices = qs.flatMap fun q => q.corners.toList := rfl

@[simp] theorem faces_filled (qs : List (Quad V F)) : (filled qs).faces = qs.map (·.face) := rfl

@[simp] theorem quads_filled (qs : List (Quad V F)) : (filled qs).quads = qs := by
  have cut (qs : List (Quad V F)) :
      loops (qs.flatMap fun q => q.corners.toList) = qs.map (·.corners) := by
    induction qs with
    | nil => rfl
    | cons q qs ih =>
      rw [List.flatMap_cons, List.map_cons, ← ih]
      rfl
  rw [quads, faces_filled, vertices_filled, cut]
  induction qs with
  | nil => rfl
  | cons q qs ih => simp [ih]

@[simp] theorem isEmpty_filled (qs : List (Quad V F)) : (filled qs).isEmpty = qs.isEmpty := by
  cases qs <;> rfl

theorem length_vertices_filled (qs : List (Quad V F)) :
    (filled qs).vertices.length = 4 * qs.length := size_vertexBuffer_filled qs

theorem length_indices_filled (qs : List (Quad V F)) :
    (filled qs).indices.length = 6 * qs.length :=
  length_flatMap_range (f := numbers) (fun _ => rfl) qs.length

theorem take_vertices {q : Quad V F} (h : qs[i]? = some q) :
    ((filled qs).vertices.drop (4 * i)).take 4 = q.corners.toList :=
  take_drop_flatMap (fun q => q.corners.length_toList) h

/-! ### Vertex numbers -/

/-- As long as the word can count them, numbers are places in the vertex buffer. -/
theorem toNat_numbers (h : 4 * i + 3 < Word.depthBound) :
    (numbers i).map UInt32.toNat =
      [4 * i, 4 * i + 1, 4 * i + 2, 4 * i, 4 * i + 2, 4 * i + 3] := by
  rw [Word.depthBound] at h
  simp (disch := omega) only [numbers, List.map_cons, List.map_nil, UInt32.toNat_ofNat',
    Nat.add_zero, Nat.mod_eq_of_lt]

theorem take_indices (hi : i < qs.length)
    (hsmall : (filled qs).vertices.length ≤ Word.depthBound) :
    (((filled qs).indices.drop (6 * i)).take 6).map UInt32.toNat =
      [4 * i, 4 * i + 1, 4 * i + 2, 4 * i, 4 * i + 2, 4 * i + 3] := by
  rw [length_vertices_filled] at hsmall
  rw [← toNat_numbers (by omega)]
  congr 1
  exact take_drop_flatMap (f := numbers) (fun _ => rfl) (List.getElem?_range hi)

/-- A number never points past the vertices. -/
theorem lt_of_mem_indices {n : UInt32} (h : n ∈ (filled qs).indices) :
    n.toNat < (filled qs).vertices.length := by
  obtain ⟨k, hk, hn⟩ := List.mem_flatMap.mp h
  obtain ⟨j, hj, rfl⟩ := List.mem_map.mp hn
  have hk := List.mem_range.mp hk
  have hj : j ≤ 3 := (by decide : ∀ j ∈ [0, 1, 2, 0, 2, 3], j ≤ 3) j hj
  have hle : (UInt32.ofNat (4 * k + j)).toNat ≤ 4 * k + j := by
    rw [UInt32.toNat_ofNat']
    exact Nat.mod_le _ _
  rw [length_vertices_filled]
  omega

end Mesh

end VoxelScene
