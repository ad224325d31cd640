import Cloud3D.List.Table
import Cloud3D.Mesh.Basic

/-!
# Encoding and decoding of meshes

`serializeModel` writes the vertex table of a mesh once and refers to it by index.
`deserializeModel` looks every index up in the table and adds a new vertex for it, so
the decoded mesh has one vertex for each corner of the message and none else.
`deserializeModel_eq_some` is the specification of the decoder: the vertices of each
face of the message follow each other, face after face.
-/

namespace Cloud3D

/-- Conversion between the scalars of a mesh and those of a message. -/
structure Scalars (float double : Type) where
  widen : float → double
  narrow : double → float

variable {float double : Type}

def Scalars.vertex (scalars : Scalars float double) (point : Point float) : Vertex double :=
  ⟨scalars.widen point.x, scalars.widen point.y, scalars.widen point.z⟩

def Scalars.point (scalars : Scalars float double) (vertex : Vertex double) : Point float :=
  ⟨scalars.narrow vertex.x, scalars.narrow vertex.y, scalars.narrow vertex.z⟩

/-- Indices are in range, and every face has at least three of them. -/
structure Mesh.WellFormed (model : Mesh double) : Prop where
  inside : ∀ face ∈ model.face, ∀ index ∈ face.index, index < model.vertex.length
  corners : ∀ face ∈ model.face, 3 ≤ face.index.length

namespace ModelProcessor

/-- What `serializeModel` adds to the message. -/
def meshModel (scalars : Scalars float double) (mesh : CloudMesh float) : Mesh double where
  face := mesh.faces.map Face.mk
  vertex := mesh.points.map scalars.vertex

@[simp] theorem meshModel_index (scalars : Scalars float double) (mesh : CloudMesh float) :
    (meshModel scalars mesh).face.map Face.index = mesh.faces := by
  simp [meshModel, Function.comp_def]

@[simp] theorem meshModel_vertex (scalars : Scalars float double) (mesh : CloudMesh float) :
    (meshModel scalars mesh).vertex = mesh.points.map scalars.vertex := rfl

def serializeModel (scalars : Scalars float double) (model : OpenMeshModel double)
    (mesh : CloudMesh float) : OpenMeshModel double :=
  { model with mesh := model.mesh ++ [meshModel scalars mesh] }

/-- The inner loop of `deserializeModel`. An index outside of the vertex table has no
defined result. -/
def addCorner (scalars : Scalars float double) (verticies : List (Vertex double))
    (state : CloudMesh float × List Nat) (index : Nat) : Option (CloudMesh float × List Nat) := do
  let vertex ← verticies[index]?
  let (mesh, handle) := state.1.addVertex (scalars.point vertex)
  return (mesh, state.2 ++ [handle])

/-- The outer loop of `deserializeModel`. -/
def addPolygon (openMesh : OpenMesh float) (scalars : Scalars float double)
    (verticies : List (Vertex double)) (mesh : CloudMesh float) (face : Face) :
    Option (CloudMesh float) := do
  let (mesh, vhandle) ← face.index.foldlM (addCorner scalars verticies) (mesh, [])
  return mesh.addFace openMesh vhandle

def deserializeModel (openMesh : OpenMesh float) (scalars : Scalars float double)
    (mesh : CloudMesh float) (model : Mesh double) : Option (CloudMesh float) :=
  model.face.foldlM (addPolygon openMesh scalars model.vertex) mesh

/-! ### Specification of the decoder -/

/-- The coordinates which the corners of a face refer to. -/
def polygon (scalars : Scalars float double) (verticies : List (Vertex double)) (face : Face) :
    Option (List (Point float)) :=
  face.index.mapM fun index => verticies[index]?.map scalars.point

/-- One pass over the corners of a face appends its points, under consecutive handles. -/
theorem foldlM_addCorner (scalars : Scalars float double) (verticies : List (Vertex double))
    (mesh : CloudMesh float) (vhandle indices : List Nat) :
    indices.foldlM (addCorner scalars verticies) (mesh, vhandle) =
      (indices.mapM fun index => verticies[index]?.map scalars.point).map fun points =>
        (mesh.addVertices points,
          vhandle ++ List.range' mesh.points.length points.length) := by
  induction indices generalizing mesh vhandle with
  | nil => simp
  | cons index indices ih =>
      rw [List.foldlM_cons, List.mapM_cons]
      cases found : verticies[index]? with
      | none => simp [addCorner, found]
      | some vertex =>
          have step : addCorner scalars verticies (mesh, vhandle) index =
              some (mesh.addVertices [scalars.point vertex],
                vhandle ++ [mesh.points.length]) := by
            simp [addCorner, found, CloudMesh.addVertex]
          rw [step]
          simp only [Option.bind_eq_bind, Option.bind_some, ih, Option.map_some, Option.pure_def]
          cases indices.mapM fun index => verticies[index]?.map scalars.point with
          | none => rfl
          | some points =>
              simp [List.range'_succ]

theorem addPolygon_eq (openMesh : OpenMesh float) (scalars : Scalars float double)
    (verticies : List (Vertex double)) (mesh : CloudMesh float) (face : Face) :
    addPolygon openMesh scalars verticies mesh face =
      (polygon scalars verticies face).map fun points =>
        (mesh.addVertices points).addFace openMesh
          (List.range' mesh.points.length points.length) := by
  rw [addPolygon, foldlM_addCorner, polygon]
  cases face.index.mapM fun index => verticies[index]?.map scalars.point with
  | none => rfl
  | some points => simp

theorem polygon_eq (scalars : Scalars float double) (verticies : List (Vertex double))
    (face : Face) :
    polygon scalars verticies face = Table.row (verticies.map scalars.point) face.index := by
  simp only [polygon, Table.row, List.getElem?_map]

theorem mapM_polygon (scalars : Scalars float double) (verticies : List (Vertex double))
    (faces : List Face) :
    faces.mapM (polygon scalars verticies) =
      Table.read (verticies.map scalars.point) (faces.map Face.index) := by
  rw [Table.read, List.mapM_map]
  exact congrArg (fun f => faces.mapM f) (funext (polygon_eq scalars verticies))

theorem polygon_isSome_iff (scalars : Scalars float double) (verticies : List (Vertex double))
    (face : Face) :
    (polygon scalars verticies face).isSome ↔
      ∀ index ∈ face.index, index < verticies.length := by
  rw [polygon_eq, Table.row_isSome_iff, List.length_map]

theorem length_polygon {scalars : Scalars float double} {verticies : List (Vertex double)}
    {face : Face} {points : List (Point float)}
    (read : polygon scalars verticies face = some points) :
    points.length = face.index.length := by
  rw [polygon_eq] at read
  exact Table.length_of_row read

/-- The decoder has a defined result exactly when no index leaves the vertex table. -/
theorem deserializeModel_isSome_iff (openMesh : OpenMesh float)
    (scalars : Scalars float double) (mesh : CloudMesh float) (model : Mesh double) :
    (deserializeModel openMesh scalars mesh model).isSome ↔
      ∀ face ∈ model.face, ∀ index ∈ face.index, index < model.vertex.length := by
  obtain ⟨faces, verticies⟩ := model
  rw [deserializeModel]
  dsimp only
  induction faces generalizing mesh with
  | nil => simp
  | cons face faces ih =>
      rw [List.foldlM_cons, addPolygon_eq, List.forall_mem_cons,
        ← polygon_isSome_iff scalars verticies face]
      cases polygon scalars verticies face with
      | none => simp
      | some points => simpa using ih _

/-- The decoded mesh has the corners of the message for vertices, face after face. -/
theorem deserializeModel_eq_some (openMesh : OpenMesh float) (scalars : Scalars float double)
    (mesh : CloudMesh float) {model : Mesh double} {polygons : List (List (Point float))}
    (read : model.face.mapM (polygon scalars model.vertex) = some polygons)
    (corners : ∀ face ∈ model.face, 3 ≤ face.index.length) :
    ∃ decoded, deserializeModel openMesh scalars mesh model = some decoded ∧
      decoded.points = mesh.points ++ polygons.flatten ∧
      decoded.faces = mesh.faces ++ Blocks.number mesh.points.length polygons := by
  obtain ⟨faces, verticies⟩ := model
  rw [deserializeModel]
  dsimp only at read corners ⊢
  induction faces generalizing mesh polygons with
  | nil =>
      obtain rfl : polygons = [] := by simpa using read.symm
      exact ⟨mesh, rfl, by simp, by simp⟩
  | cons face faces ih =>
      rw [List.mapM_cons] at read
      simp only [Option.bind_eq_bind, Option.bind_eq_some_iff, Option.pure_def,
        Option.some.injEq] at read
      obtain ⟨points, here, rest, later, rfl⟩ := read
      obtain ⟨large, others⟩ := List.forall_mem_cons.mp corners
      rw [← length_polygon here] at large
      obtain ⟨decoded, result, decodedPoints, decodedFaces⟩ :=
        ih ((mesh.addVertices points).addFace openMesh
          (List.range' mesh.points.length points.length)) later others
      refine ⟨decoded, ?_, ?_, ?_⟩
      · rw [List.foldlM_cons, addPolygon_eq, here]
        exact result
      · rw [decodedPoints]
        simp
      · rw [decodedFaces, CloudMesh.addFace_fresh openMesh mesh large]
        simp

end ModelProcessor

end Cloud3D
