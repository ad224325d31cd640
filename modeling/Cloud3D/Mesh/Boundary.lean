import Mathlib.Data.List.Rotate
import Cloud3D.Mesh.Geometry

/-!
# Boundary vertices

A vertex is on the boundary when an edge leaves it along which no face goes. The faces of
a transported mesh have no vertex in common, so there is no edge between two of them, and
all of its vertices are on the boundary.
-/

namespace Cloud3D

variable {float double : Type}

/-- `is_boundary` of a vertex: it is isolated, or one of its outgoing halfedges is that of
no face. -/
def CloudMesh.Boundary (mesh : CloudMesh float) (v : Nat) : Prop :=
  (∀ face ∈ mesh.faces, v ∉ face) ∨
    ∃ u, (∃ face ∈ mesh.faces, (u, v) ∈ directedEdges face) ∧
      ∀ face ∈ mesh.faces, (v, u) ∉ directedEdges face

/-- Only the edges which lead to the vertex have to be tried. -/
instance CloudMesh.instDecidableBoundary (mesh : CloudMesh float) (v : Nat) :
    Decidable (mesh.Boundary v) :=
  decidable_of_iff ((∀ face ∈ mesh.faces, v ∉ face) ∨
    ∃ face ∈ mesh.faces, ∃ edge ∈ directedEdges face, edge.2 = v ∧
      ∀ other ∈ mesh.faces, ∀ back ∈ directedEdges other, back ≠ (v, edge.1)) <| by
    refine or_congr_right ⟨?_, ?_⟩
    · rintro ⟨face, member, ⟨u, _⟩, edge, rfl, free⟩
      exact ⟨u, ⟨face, member, edge⟩, fun other inside back => free other inside _ back rfl⟩
    · rintro ⟨u, ⟨face, member, edge⟩, free⟩
      refine ⟨face, member, (u, v), edge, rfl, fun other inside back opposite same => ?_⟩
      exact free other inside (same ▸ opposite)

section Edges

variable {face : List Nat} {u v : Nat}

/-- The edges go from each corner to the next one. -/
theorem mem_directedEdges_iff :
    (u, v) ∈ directedEdges face ↔ ∃ k < face.length,
      face[k]? = some u ∧ face[(k + 1) % face.length]? = some v := by
  simp only [directedEdges, List.mem_iff_getElem?, List.getElem?_zip_eq_some]
  constructor
  · rintro ⟨k, first, second⟩
    obtain ⟨inside, _⟩ := List.getElem?_eq_some_iff.mp first
    rw [List.getElem?_rotate inside] at second
    exact ⟨k, inside, first, second⟩
  · rintro ⟨k, inside, first, second⟩
    exact ⟨k, first, by rwa [List.getElem?_rotate inside]⟩

/-- Every corner has an edge to it. -/
theorem exists_directedEdge (corner : v ∈ face) : ∃ u, (u, v) ∈ directedEdges face := by
  have next : v ∈ (directedEdges face).map Prod.snd := by
    rw [directedEdges, List.map_snd_zip (by simp)]
    exact List.mem_rotate.mpr corner
  obtain ⟨⟨u, _⟩, member, rfl⟩ := List.mem_map.mp next
  exact ⟨u, member⟩

/-- A face with three corners, none of which it repeats, does not go back along its edges. -/
theorem not_mem_directedEdges_swap (nodup : face.Nodup) (corners : 3 ≤ face.length)
    (edge : (u, v) ∈ directedEdges face) : (v, u) ∉ directedEdges face := by
  intro back
  obtain ⟨k, inside, at_u, next_v⟩ := mem_directedEdges_iff.mp edge
  obtain ⟨l, inside', at_v, next_u⟩ := mem_directedEdges_iff.mp back
  have there : l = (k + 1) % face.length :=
    (List.getElem?_inj inside' nodup).mp (at_v.trans next_v.symm)
  have here : k = (l + 1) % face.length :=
    (List.getElem?_inj inside nodup).mp (at_u.trans next_u.symm)
  -- Two steps along the face would lead back to its corner `k`.
  have twice : k = (k + 2) % face.length := by
    rw [there, Nat.mod_add_mod] at here
    exact here
  by_cases wraps : k + 2 < face.length
  · rw [Nat.mod_eq_of_lt wraps] at twice
    omega
  · rw [Nat.mod_eq_sub_mod (by omega), Nat.mod_eq_of_lt (by omega)] at twice
    omega

theorem mem_of_mem_directedEdges (edge : (u, v) ∈ directedEdges face) : u ∈ face ∧ v ∈ face := by
  obtain ⟨first, second⟩ := List.of_mem_zip edge
  exact ⟨first, List.mem_rotate.mp second⟩

end Edges

/-- A vertex is a corner of one face only, if no vertex is repeated. -/
theorem face_eq_of_corner {faces : List (List Nat)} (nodup : faces.flatten.Nodup)
    {face other : List Nat} (member : face ∈ faces) (inside : other ∈ faces) {v : Nat}
    (corner : v ∈ face) (corner' : v ∈ other) : other = face := by
  obtain ⟨i, at_i⟩ := List.mem_iff_getElem?.mp member
  obtain ⟨j, at_j⟩ := List.mem_iff_getElem?.mp corner
  obtain ⟨k, at_k⟩ := List.mem_iff_getElem?.mp inside
  obtain ⟨l, at_l⟩ := List.mem_iff_getElem?.mp corner'
  have same := ((Blocks.nodup_flatten_iff faces).mp nodup i j k l v
    (by simp [Blocks.entry, at_i, at_j]) (by simp [Blocks.entry, at_k, at_l])).1
  exact Option.some.inj (at_k.symm.trans (same ▸ at_i))

/-- Where no two corners are the same vertex, every vertex is on the boundary. -/
theorem CloudMesh.boundary_of_nodup {mesh : CloudMesh float} (nodup : mesh.faces.flatten.Nodup)
    (v : Nat) : mesh.Boundary v := by
  by_cases isolated : ∀ face ∈ mesh.faces, v ∉ face
  · exact .inl isolated
  · obtain ⟨face, member, corner⟩ : ∃ face ∈ mesh.faces, v ∈ face := by simpa using isolated
    obtain ⟨u, edge⟩ := exists_directedEdge corner
    refine .inr ⟨u, ⟨face, member, edge⟩, fun other inside back => ?_⟩
    have same := face_eq_of_corner nodup member inside corner (mem_of_mem_directedEdges back).1
    rw [same] at back
    have distinct := (List.nodup_flatten.mp nodup).1 face member
    exact not_mem_directedEdges_swap distinct (mesh.corners face member) edge back

namespace ModelProcessor

theorem boundary_transported (openMesh : OpenMesh float) (scalars : Scalars float double)
    (mesh : CloudMesh float) (v : Nat) : (transported openMesh scalars mesh).Boundary v := by
  apply CloudMesh.boundary_of_nodup
  rw [(transported_spec openMesh scalars mesh).2]
  exact Blocks.nodup_flatten_number 0 mesh.faces

end ModelProcessor

end Cloud3D
