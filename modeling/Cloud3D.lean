import Cloud3D.Transition.Run
import Cloud3D.Transition.View
import Cloud3D.List.Occurrence
import Cloud3D.List.Least
import Cloud3D.Numeric.Signed
import Cloud3D.List.Blocks
import Cloud3D.List.Table
import Cloud3D.List.Dispatch
import Cloud3D.Wire
import Cloud3D.Balancer.Basic
import Cloud3D.Balancer.Registry
import Cloud3D.Balancer.Matching
import Cloud3D.Balancer.Selection
import Cloud3D.Balancer.Latest
import Cloud3D.Balancer.Heard
import Cloud3D.Balancer.LoadOrder
import Cloud3D.Lease.Basic
import Cloud3D.Balancer.Detection
import Cloud3D.Balancer.Noninterference
import Cloud3D.Balancer.Deadline
import Cloud3D.Balancer.Directory
import Cloud3D.Balancer.Eviction
import Cloud3D.Config.Text
import Cloud3D.Config.Parser
import Cloud3D.Config.Format
import Cloud3D.Config.Transport
import Cloud3D.Config.Sweep
import Cloud3D.Config.Written
import Cloud3D.Config.Constructed
import Cloud3D.Mesh.Basic
import Cloud3D.Mesh.Processor
import Cloud3D.Mesh.Connectivity
import Cloud3D.Mesh.Geometry
import Cloud3D.Mesh.Boundary
import Cloud3D.Provider.Service
import Cloud3D.Provider.Table
import Cloud3D.Provider.Handlers
import Cloud3D.Provider.Establisher
import Cloud3D.Provider.Advertised
import Cloud3D.Client.Operation
import Cloud3D.Client.Decoding
import Cloud3D.Client.Calls
import Cloud3D.Client.Pipeline
import Cloud3D.Session.Basic
import Cloud3D.Session.Completed
import Cloud3D.Session.Unique
import Cloud3D.Client.Finder
import Cloud3D.Session.Carried
import Cloud3D.Session.Recovery
import Cloud3D.Session.Settled
import Cloud3D.Cloud.Basic
import Cloud3D.Cloud.Advertised
import Cloud3D.Cloud.Served
import Cloud3D.Cloud.Directory
import Cloud3D.Cloud.Available
import Cloud3D.Cloud.Outage
import Cloud3D.Cloud.Configured
import Cloud3D.Transition.Partial
import Cloud3D.Transition.Simulation
import Cloud3D.Cloud.Used
import Cloud3D.Samples.MeshSmooth
