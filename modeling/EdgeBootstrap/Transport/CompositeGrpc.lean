import EdgeBootstrap.Transport.Ingress

/-! `CompositeGrpcIngress`: reflection calls go to the reflection service, all
others to the primary ingress. -/
namespace EdgeBootstrap

variable [Platform] {σ α : Type}

def reflectionPrefix : String := "/grpc.reflection."

structure CompositeGrpcIngress (σ α : Type) where
  primary : GrpcIngress σ α
  reflection : GrpcIngress σ α

namespace CompositeGrpcIngress

variable (self : CompositeGrpcIngress σ α)

def route (method : String) : GrpcIngress σ α :=
  if reflectionPrefix.toList.isPrefixOf method.toList then self.reflection else self.primary

/-- The `GrpcIngress` implementation; only the primary is probed. -/
def ingress : GrpcIngress σ α where
  handleUnary req := (self.route req.request.method).handleUnary req
  handleStream req := (self.route req.method).handleStream req
  healthCheck := self.primary.healthCheck

end CompositeGrpcIngress

/-- `ReflectionService`, of the transport crate: it serves reflection itself and
never enters application code. -/
def GrpcIngress.reflectionService (σ α : Type)
    (handleUnary : UnaryRequest → Except GrpcIngressError GrpcResponse)
    (handleStream : StreamRequest → Except GrpcIngressError Platform.StreamResponse)
    (healthCheck : Except GrpcIngressError GrpcHealthCheck) : GrpcIngress σ α where
  handleUnary req := do
    Traced.tell (.reflected req.request.method)
    return handleUnary req
  handleStream req := do
    Traced.tell (.reflected req.method)
    return handleStream req
  healthCheck := healthCheck

end EdgeBootstrap
