import Mathlib.Algebra.Order.Ring.Int
import Mathlib.Logic.Function.Iterate
import Cloud3D.Mesh.Connectivity

/-!
# Geometry of a transported mesh

The polygons of a mesh are the coordinates of the corners of its faces, in order; those
of a message are read through its vertex table. Both sides of the transport keep them,
although the vertices are renumbered and shared ones torn apart. A mesh that has been
transported once is in normal form: another hop changes neither its vertices nor the
indices of its faces.
-/

namespace Cloud3D

variable {float double : Type}

/-- The corner coordinates of the faces of a mesh. -/
def CloudMesh.polygons (mesh : CloudMesh float) : Option (List (List (Point float))) :=
  Table.read mesh.points mesh.faces

/-- The corner coordinates of the faces of a message, if its indices are in range. -/
def Mesh.polygons (model : Mesh double) : Option (List (List (Vertex double))) :=
  Table.read model.vertex (model.face.map Face.index)

theorem CloudMesh.polygons_isSome (mesh : CloudMesh float) : mesh.polygons.isSome :=
  (Table.read_isSome_iff mesh.points mesh.faces).mpr mesh.inside

theorem Mesh.WellFormed.polygons_isSome {model : Mesh double} (wellFormed : model.WellFormed) :
    model.polygons.isSome := by
  apply (Table.read_isSome_iff _ _).mpr
  exact List.forall_mem_map.mpr wellFormed.inside

/-- A mesh whose faces number the corners has the polygons it was built from. -/
theorem CloudMesh.polygons_of_number {mesh : CloudMesh float}
    {polygons : List (List (Point float))} (points : mesh.points = polygons.flatten)
    (faces : mesh.faces = Blocks.number 0 polygons) : mesh.polygons = some polygons := by
  rw [CloudMesh.polygons, points, faces]
  exact Table.read_number [] polygons

namespace ModelProcessor

/-- What is encoded refers to its own vertex table, and has the polygons of the mesh. -/
theorem meshModel_wellFormed (scalars : Scalars float double) (mesh : CloudMesh float) :
    (meshModel scalars mesh).WellFormed := by
  constructor
  · simpa [meshModel] using mesh.inside
  · simpa [meshModel] using mesh.corners

theorem polygons_meshModel (scalars : Scalars float double) (mesh : CloudMesh float) :
    (meshModel scalars mesh).polygons =
      mesh.polygons.map (List.map (List.map scalars.vertex)) := by
  rw [Mesh.polygons, meshModel_index, meshModel_vertex, Table.read_map]
  rfl

/-- A well-formed message is decoded without losing a face, in the numbering of its
corners. -/
theorem deserializeModel_wellFormed (openMesh : OpenMesh float)
    (scalars : Scalars float double) {model : Mesh double} (wellFormed : model.WellFormed) :
    ∃ decoded polygons, deserializeModel openMesh scalars .empty model = some decoded ∧
      model.polygons.map (List.map (List.map scalars.point)) = some polygons ∧
      decoded.points = polygons.flatten ∧ decoded.faces = Blocks.number 0 polygons ∧
      decoded.faces.length = model.face.length := by
  obtain ⟨vertices, read⟩ := Option.isSome_iff_exists.mp wellFormed.polygons_isSome
  have narrowed : model.face.mapM (polygon scalars model.vertex) =
      some (vertices.map (List.map scalars.point)) := by
    rw [mapM_polygon, Table.read_map]
    exact congrArg (Option.map (List.map (List.map scalars.point))) read
  obtain ⟨decoded, result, points, faces⟩ :=
    deserializeModel_eq_some openMesh scalars .empty narrowed wellFormed.corners
  rw [CloudMesh.empty_points, List.nil_append] at points
  rw [CloudMesh.empty_faces, List.nil_append, CloudMesh.empty_points, List.length_nil] at faces
  refine ⟨decoded, _, result, by rw [read]; rfl, points, faces, ?_⟩
  have shape := congrArg List.length (Table.shape_of_read read)
  have kept := congrArg List.length (Blocks.map_length_number 0
    (vertices.map (List.map scalars.point)))
  rw [← faces] at kept
  simp only [List.length_map] at shape kept
  exact kept.trans shape

section Narrowing

variable {scalars : Scalars float double} (narrowing : ∀ x, scalars.narrow (scalars.widen x) = x)

include narrowing

theorem point_vertex (point : Point float) : scalars.point (scalars.vertex point) = point := by
  simp only [Scalars.point, Scalars.vertex, narrowing]

/-- A transported mesh is the numbering of the polygons of the mesh. -/
theorem transported_eq (openMesh : OpenMesh float) (mesh : CloudMesh float) :
    ∃ polygons, mesh.polygons = some polygons ∧
      (transported openMesh scalars mesh).points = polygons.flatten ∧
      (transported openMesh scalars mesh).faces = Blocks.number 0 polygons := by
  obtain ⟨decoded, polygons, result, read, points, faces, -⟩ :=
    deserializeModel_wellFormed openMesh scalars (meshModel_wellFormed scalars mesh)
  obtain rfl : transported openMesh scalars mesh = decoded :=
    Option.some.inj ((deserializeModel_meshModel openMesh scalars mesh).symm.trans result)
  obtain ⟨original, found⟩ := Option.isSome_iff_exists.mp mesh.polygons_isSome
  have same : original = polygons := by
    rw [polygons_meshModel, found] at read
    simpa [Function.comp_def, point_vertex narrowing] using read
  exact ⟨polygons, same ▸ found, points, faces⟩

theorem polygons_transported (openMesh : OpenMesh float) (mesh : CloudMesh float) :
    (transported openMesh scalars mesh).polygons = mesh.polygons := by
  obtain ⟨polygons, read, points, faces⟩ := transported_eq narrowing openMesh mesh
  rw [read]
  exact CloudMesh.polygons_of_number points faces

theorem transported_transported (openMesh : OpenMesh float) (mesh : CloudMesh float) :
    transported openMesh scalars (transported openMesh scalars mesh) =
      transported openMesh scalars mesh := by
  obtain ⟨polygons, read, points, faces⟩ := transported_eq narrowing openMesh mesh
  obtain ⟨polygons', read', points', faces'⟩ :=
    transported_eq narrowing openMesh (transported openMesh scalars mesh)
  have same : polygons' = polygons := by
    rw [polygons_transported narrowing, read] at read'
    exact (Option.some.inj read').symm
  apply CloudMesh.ext
  · rw [points', points, same]
  · rw [faces', faces, same]

end Narrowing

/-- The transport keeps the polygons of a mesh, face by face. What is encoded, also behind
other meshes, refers to its own vertices and has the polygons of the mesh; what is
well-formed is decoded with all its faces, whatever they share, and its polygons. -/
theorem transport_keeps_polygons (openMesh : OpenMesh float) (scalars : Scalars float double)
    (narrowing : ∀ x, scalars.narrow (scalars.widen x) = x) :
    (∀ (message : OpenMeshModel double) (mesh : CloudMesh float), ∃ model,
      serializeModel scalars message mesh = { message with mesh := message.mesh ++ [model] } ∧
      (∀ face ∈ model.face, ∀ index ∈ face.index, index < model.vertex.length) ∧
      mesh.polygons.isSome ∧
      model.polygons = mesh.polygons.map (List.map (List.map scalars.vertex))) ∧
    (∀ model : Mesh double, model.WellFormed → ∃ decoded,
      deserializeModel openMesh scalars .empty model = some decoded ∧
      decoded.faces.length = model.face.length ∧
      model.polygons.isSome ∧
      decoded.polygons = model.polygons.map (List.map (List.map scalars.point))) ∧
    (∀ mesh : CloudMesh float, ∃ decoded,
      deserializeModel openMesh scalars .empty (meshModel scalars mesh) = some decoded ∧
      decoded.polygons = mesh.polygons) := by
  refine ⟨fun message mesh => ?_, fun model wellFormed => ?_, fun mesh => ?_⟩
  · exact ⟨meshModel scalars mesh, rfl, (meshModel_wellFormed scalars mesh).inside,
      mesh.polygons_isSome, polygons_meshModel scalars mesh⟩
  · obtain ⟨decoded, polygons, result, read, points, faces, all⟩ :=
      deserializeModel_wellFormed openMesh scalars wellFormed
    refine ⟨decoded, result, all, wellFormed.polygons_isSome, ?_⟩
    rw [read]
    exact CloudMesh.polygons_of_number points faces
  · exact ⟨_, deserializeModel_meshModel openMesh scalars mesh,
      polygons_transported narrowing openMesh mesh⟩

/-- Three triangles on one edge, the last of which repeats a corner. -/
def fan : Mesh Int where
  face := [⟨[0, 1, 2]⟩, ⟨[0, 1, 3]⟩, ⟨[0, 1, 0]⟩]
  vertex := [⟨0, 0, 0⟩, ⟨1, 0, 0⟩, ⟨1, 1, 0⟩, ⟨0, 1, 0⟩]

theorem fan_wellFormed : fan.WellFormed := ⟨by decide, by decide⟩

theorem transport_keeps_polygons_fan :
    ∃ decoded, deserializeModel orientable (Scalars.mk (id : Int → Int) id) .empty fan =
        some decoded ∧
      decoded.faces.length = fan.face.length ∧ fan.polygons.isSome ∧
      decoded.polygons = fan.polygons.map (List.map (List.map (Scalars.mk id id).point)) :=
  (transport_keeps_polygons orientable (Scalars.mk id id) fun _ => rfl).2.1 fan fan_wellFormed

/-- One hop is a normal form: a second one changes neither the vertices nor the indices
of any face, in whatever number of hops. The faces of the normal form use consecutive
blocks of vertices in face order, and there are no other vertices. -/
theorem transported_normal_form (openMesh : OpenMesh float) (scalars : Scalars float double)
    (narrowing : ∀ x, scalars.narrow (scalars.widen x) = x) (mesh : CloudMesh float) :
    let norm := transported openMesh scalars
    norm (norm mesh) = norm mesh ∧
    (norm mesh).faces = Blocks.number 0 mesh.faces ∧
    (norm mesh).faces.flatten = List.range (norm mesh).points.length ∧
    (norm mesh).points.length = (mesh.faces.map List.length).sum ∧
    ∀ hops, norm^[hops + 1] mesh = norm mesh := by
  intro norm
  have again : norm (norm mesh) = norm mesh := transported_transported narrowing openMesh mesh
  obtain ⟨points, faces⟩ := transported_spec openMesh scalars mesh
  refine ⟨again, faces, ?_, ?_, fun hops => ?_⟩
  · show (transported openMesh scalars mesh).faces.flatten = _
    rw [faces, Blocks.flatten_number, ← points, List.range_eq_range']
  · show (transported openMesh scalars mesh).points.length = _
    rw [points, List.length_flatten]
  · rw [Function.iterate_succ_apply]
    exact Function.iterate_fixed again hops

theorem transported_normal_form_quad :
    let norm := transported orientable (Scalars.mk (id : Int → Int) id)
    norm (norm quad) = norm quad ∧ (norm quad).faces = [[0, 1, 2], [3, 4, 5]] := by
  have normal := transported_normal_form orientable (Scalars.mk (id : Int → Int) id)
    (fun _ => rfl) quad
  exact ⟨normal.1, normal.2.1⟩

end ModelProcessor

end Cloud3D
