import Gateway.Entrypoint
import Gateway.Front

/-! Applications of either convention, and the front before them. -/
namespace Gateway

inductive Application where
  | sync (app : SyncApp)
  | async (app : AsyncApp)

namespace Application

/-- The application of a convention, unless it is undetermined. -/
def ofConvention? : Convention SyncApp AsyncApp → Option Application
  | .sync app => some (.sync app)
  | .async app => some (.async app)
  | .undetermined => none

def convention : Application → String
  | sync _ => "sync"
  | async _ => "async"

def behind (front : Front) : Application → Application
  | sync app => .sync (front.sync app)
  | async app => .async (front.async app)

end Application
end Gateway
