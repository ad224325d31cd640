import Mathlib.Data.List.Range
import Cloud3D.Wire

/-!
# Polygon meshes

`CloudMesh` is the polygon mesh of `ModelProcessor`: the points of the vertices in the
order of their indices and, for every face, the indices of its vertices in the order in
which the face lists them. The faces of a mesh refer to its vertices and have at least
three corners, which `add_face` asserts.

Whether a face may be attached to a mesh is decided by `OpenMesh`, of which only one
thing is assumed: vertices which no face uses may always be joined to a face.
-/

namespace Cloud3D

structure Point (float : Type) where
  x : float
  y : float
  z : float
deriving DecidableEq, Repr

@[ext] structure CloudMesh (float : Type) where
  points : List (Point float)
  faces : List (List Nat)
  inside : ∀ face ∈ faces, ∀ v ∈ face, v < points.length
  corners : ∀ face ∈ faces, 3 ≤ face.length
deriving DecidableEq

/-- The library's test of a new face, which keeps the mesh manifold. -/
structure OpenMesh (float : Type) where
  keepsManifold : CloudMesh float → List Nat → Bool
  isolated : ∀ mesh vhandle, 3 ≤ vhandle.length → vhandle.Nodup →
    (∀ v ∈ vhandle, v < mesh.points.length ∧ ∀ face ∈ mesh.faces, v ∉ face) →
      keepsManifold mesh vhandle = true

namespace CloudMesh

variable {float : Type}

def empty : CloudMesh float :=
  ⟨[], [], fun _ member => absurd member List.not_mem_nil,
    fun _ member => absurd member List.not_mem_nil⟩

@[simp] theorem empty_points : (empty : CloudMesh float).points = [] := rfl

@[simp] theorem empty_faces : (empty : CloudMesh float).faces = [] := rfl

def clear (_ : CloudMesh float) : CloudMesh float := empty

/-- New vertices after the existing ones, used by no face. -/
def addVertices (mesh : CloudMesh float) (points : List (Point float)) : CloudMesh float where
  points := mesh.points ++ points
  faces := mesh.faces
  inside := fun face member v corner =>
    (mesh.inside face member v corner).trans_le (by simp)
  corners := mesh.corners

@[simp] theorem addVertices_points (mesh : CloudMesh float) (points : List (Point float)) :
    (mesh.addVertices points).points = mesh.points ++ points := rfl

@[simp] theorem addVertices_faces (mesh : CloudMesh float) (points : List (Point float)) :
    (mesh.addVertices points).faces = mesh.faces := rfl

@[simp] theorem addVertices_nil (mesh : CloudMesh float) : mesh.addVertices [] = mesh := by
  ext1 <;> simp

@[simp] theorem addVertices_addVertices (mesh : CloudMesh float)
    (points more : List (Point float)) :
    (mesh.addVertices points).addVertices more = mesh.addVertices (points ++ more) := by
  ext1 <;> simp

/-- `add_vertex`: the mesh with one more vertex, and the handle of the vertex. -/
def addVertex (mesh : CloudMesh float) (point : Point float) : CloudMesh float × Nat :=
  (mesh.addVertices [point], mesh.points.length)

/-- `add_face`: a face which is not accepted leaves the mesh as it is. -/
def addFace (openMesh : OpenMesh float) (mesh : CloudMesh float) (vhandle : List Nat) :
    CloudMesh float :=
  if valid : 3 ≤ vhandle.length ∧ ∀ v ∈ vhandle, v < mesh.points.length then
    if openMesh.keepsManifold mesh vhandle then
      { points := mesh.points
        faces := mesh.faces ++ [vhandle]
        inside := List.forall_mem_append.mpr ⟨mesh.inside, List.forall_mem_singleton.mpr valid.2⟩
        corners :=
          List.forall_mem_append.mpr ⟨mesh.corners, List.forall_mem_singleton.mpr valid.1⟩ }
    else
      mesh
  else
    mesh

@[simp] theorem addFace_points (openMesh : OpenMesh float) (mesh : CloudMesh float)
    (vhandle : List Nat) : (mesh.addFace openMesh vhandle).points = mesh.points := by
  rw [addFace]
  split
  · split <;> rfl
  · rfl

/-- Fresh vertices are always joined to a face. -/
theorem addFace_fresh (openMesh : OpenMesh float) (mesh : CloudMesh float)
    {points : List (Point float)} (corners : 3 ≤ points.length) :
    ((mesh.addVertices points).addFace openMesh
        (List.range' mesh.points.length points.length)).faces =
      mesh.faces ++ [List.range' mesh.points.length points.length] := by
  have valid : 3 ≤ (List.range' mesh.points.length points.length).length ∧
      ∀ v ∈ List.range' mesh.points.length points.length,
        v < (mesh.addVertices points).points.length := by
    refine ⟨by simpa using corners, fun v member => ?_⟩
    simpa using (List.mem_range'_1.mp member).2
  have accepted : openMesh.keepsManifold (mesh.addVertices points)
      (List.range' mesh.points.length points.length) = true := by
    refine openMesh.isolated _ _ valid.1 List.nodup_range' fun v member => ⟨valid.2 v member, ?_⟩
    intro face used corner
    have old := mesh.inside face used v corner
    exact absurd (List.mem_range'_1.mp member).1 (Nat.not_le.mpr old)
  rw [addFace, dif_pos valid, if_pos accepted]
  rfl

end CloudMesh

end Cloud3D
