import Cloud3D.Mesh.Processor

/-!
# Connectivity of a transported mesh

The decoder gives every corner a vertex of its own. `sameConnectivity_iff` says which
meshes survive this: those in which every vertex is a corner of exactly one face,
once. A shared vertex comes back as several, an isolated vertex does not come back.
-/

namespace Cloud3D

variable {float double : Type}

/-- Two meshes have corresponding corners, which share vertices alike. -/
structure SameConnectivity (mesh decoded : CloudMesh float) : Prop where
  vertices : decoded.points.length = mesh.points.length
  faces : decoded.faces.length = mesh.faces.length
  corners : ∀ i j k l u v, Blocks.entry mesh.faces i j = some u →
    Blocks.entry mesh.faces k l = some v → ∃ u' v', Blocks.entry decoded.faces i j = some u' ∧
      Blocks.entry decoded.faces k l = some v' ∧ (u' = v' ↔ u = v)

namespace ModelProcessor

theorem mapM_polygon_meshModel (scalars : Scalars float double) (mesh : CloudMesh float) :
    ∃ polygons, (meshModel scalars mesh).face.mapM
        (polygon scalars (meshModel scalars mesh).vertex) = some polygons ∧
      polygons.map List.length = mesh.faces.map List.length := by
  rw [mapM_polygon, meshModel_index]
  obtain ⟨polygons, read⟩ := Option.isSome_iff_exists.mp
    ((Table.read_isSome_iff ((meshModel scalars mesh).vertex.map scalars.point) mesh.faces).mpr
      (by simpa using mesh.inside))
  exact ⟨polygons, read, Table.shape_of_read read⟩

/-- Every mesh is encoded to a message which can be decoded. -/
theorem deserializeModel_meshModel_isSome (openMesh : OpenMesh float)
    (scalars : Scalars float double) (start mesh : CloudMesh float) :
    (deserializeModel openMesh scalars start (meshModel scalars mesh)).isSome := by
  rw [deserializeModel_isSome_iff]
  simpa [meshModel] using mesh.inside

/-- A mesh as it arrives at the other side: encoded, and decoded into an empty mesh. -/
def transported (openMesh : OpenMesh float) (scalars : Scalars float double)
    (mesh : CloudMesh float) : CloudMesh float :=
  (deserializeModel openMesh scalars .empty (meshModel scalars mesh)).get
    (deserializeModel_meshModel_isSome openMesh scalars .empty mesh)

theorem deserializeModel_meshModel (openMesh : OpenMesh float)
    (scalars : Scalars float double) (mesh : CloudMesh float) :
    deserializeModel openMesh scalars .empty (meshModel scalars mesh) =
      some (transported openMesh scalars mesh) := by
  simp [transported]

/-- The faces of a transported mesh use consecutive vertices, and there are no others. -/
theorem transported_spec (openMesh : OpenMesh float) (scalars : Scalars float double)
    (mesh : CloudMesh float) :
    (transported openMesh scalars mesh).points.length = mesh.faces.flatten.length ∧
      (transported openMesh scalars mesh).faces = Blocks.number 0 mesh.faces := by
  obtain ⟨polygons, read, shape⟩ := mapM_polygon_meshModel scalars mesh
  obtain ⟨decoded, result, points, faces⟩ :=
    deserializeModel_eq_some openMesh scalars .empty read (by simpa [meshModel] using mesh.corners)
  obtain rfl : transported openMesh scalars mesh = decoded :=
    Option.some.inj ((deserializeModel_meshModel openMesh scalars mesh).symm.trans result)
  refine ⟨?_, ?_⟩
  · rw [points, CloudMesh.empty_points, List.nil_append, List.length_flatten,
      List.length_flatten, shape]
  · rw [faces, CloudMesh.empty_faces, List.nil_append, CloudMesh.empty_points, List.length_nil,
      Blocks.number_congr shape]

end ModelProcessor

/-- Numbering the corners keeps what they share exactly when they share nothing. -/
theorem nodup_flatten_iff_corners {faces : List (List Nat)} :
    faces.flatten.Nodup ↔ ∀ i j k l u v, Blocks.entry faces i j = some u →
      Blocks.entry faces k l = some v → ∃ u' v',
        Blocks.entry (Blocks.number 0 faces) i j = some u' ∧
          Blocks.entry (Blocks.number 0 faces) k l = some v' ∧ (u' = v' ↔ u = v) := by
  have apart := (Blocks.nodup_flatten_iff _).mp (Blocks.nodup_flatten_number 0 faces)
  have shape := Blocks.map_length_number 0 faces
  rw [Blocks.nodup_flatten_iff]
  constructor
  · intro distinct i j k l u v first second
    obtain ⟨u', read⟩ := Option.isSome_iff_exists.mp
      ((Blocks.entry_isSome_congr shape i j).trans (by simp [first]))
    obtain ⟨v', read'⟩ := Option.isSome_iff_exists.mp
      ((Blocks.entry_isSome_congr shape k l).trans (by simp [second]))
    refine ⟨u', v', read, read', ?_, ?_⟩
    · rintro rfl
      obtain ⟨rfl, rfl⟩ := apart i j k l u' read read'
      exact Option.some.inj (first.symm.trans second)
    · rintro rfl
      obtain ⟨rfl, rfl⟩ := distinct i j k l u first second
      exact Option.some.inj (read.symm.trans read')
  · intro corners i j k l x first second
    obtain ⟨u', v', read, read', same⟩ := corners i j k l x x first second
    obtain rfl := same.mpr rfl
    exact apart i j k l u' read read'

/-- Transport keeps the connectivity of a mesh if and only if every vertex is a corner
of exactly one face, once. -/
theorem sameConnectivity_iff (openMesh : OpenMesh float) (scalars : Scalars float double)
    (mesh : CloudMesh float) :
    SameConnectivity mesh (ModelProcessor.transported openMesh scalars mesh) ↔
      ∀ v < mesh.points.length, mesh.faces.flatten.count v = 1 := by
  obtain ⟨points, faces⟩ := ModelProcessor.transported_spec openMesh scalars mesh
  have below : ∀ v ∈ mesh.faces.flatten, v < mesh.points.length := by
    intro v member
    obtain ⟨face, inside, corner⟩ := List.mem_flatten.mp member
    exact mesh.inside face inside v corner
  rw [← Blocks.nodup_and_length_iff_count below, nodup_flatten_iff_corners, ← faces, ← points]
  constructor
  · intro same
    exact ⟨same.corners, same.vertices⟩
  · rintro ⟨corners, vertices⟩
    refine ⟨vertices, ?_, corners⟩
    have shape := congrArg List.length (Blocks.map_length_number 0 mesh.faces)
    simpa [faces] using shape

/-! ### A shared vertex -/

/-- The directed edges of a face. -/
def directedEdges (face : List Nat) : List (Nat × Nat) := face.zip (face.rotate 1)

/-- A library which attaches a face unless it has a directed edge of another face. -/
def orientable : OpenMesh float where
  keepsManifold := fun mesh vhandle =>
    (directedEdges vhandle).all fun edge => mesh.faces.all fun face => edge ∉ directedEdges face
  isolated := by
    intro mesh vhandle _ _ fresh
    simp only [List.all_eq_true, decide_eq_true_eq]
    rintro ⟨u, v⟩ inside face member shared
    exact (fresh u (List.of_mem_zip inside).1).2 face member (List.of_mem_zip shared).1

/-- Two triangles with a common edge. -/
def quad : CloudMesh Int where
  points := [⟨0, 0, 0⟩, ⟨1, 0, 0⟩, ⟨1, 1, 0⟩, ⟨0, 1, 0⟩]
  faces := [[0, 1, 2], [0, 2, 3]]
  inside := by decide
  corners := by decide

/-- The two triangles are torn apart: the four vertices come back as six. -/
theorem quad_torn :
    ¬ SameConnectivity quad
      (ModelProcessor.transported orientable (Scalars.mk (id : Int → Int) id) quad) :=
  fun same => absurd same.vertices (by decide)

end Cloud3D
