import Gateway.Launch
import Gateway.Proofs.Binding
import Gateway.Proofs.Handshake
import Gateway.Proofs.Loading

/-!
What a run reports where it cannot serve. Each stage of a start fails for itself, and several may fail at
once. The run tells of the first of them and ends, and an application is started only after all the other
stages have passed.
-/
namespace Gateway.Launch

/-- The stages of a start. -/
inductive Stage where
  | module
  | attr
  | convention
  | port
  | address
  | lifespan
  deriving DecidableEq

/-- The place of a stage in their order. -/
def Stage.rank : Stage → Nat
  | module => 0
  | attr => 1
  | convention => 2
  | port => 3
  | address => 4
  | lifespan => 5

/-- The entry of the settings leads to an application, which diagnostics show as `label`. -/
def Leads (r : Registry Servable) (s : Settings) (label : String) (app : Application) : Prop :=
  ∃ loaded, r.load s.entry = .ok loaded ∧ loaded.label = label ∧
    Application.ofConvention? (Convention.detect loaded.object) = some app

/-- A stage fails with an error, whatever becomes of the others. -/
inductive Fails (r : Registry Servable) (s : Settings) : Stage → StartupError → Prop where
  | module {module : String} {attr : Option String} (hnames : Registry.Names s.entry module attr)
      (hmissing : r.lookup module = none) : Fails r s .module (.moduleNotFound module)
  | attr {module : String} {attr : Option String} {es : Exports Servable}
      (hnames : Registry.Names s.entry module attr) (hmodule : r.lookup module = some es)
      (hmissing : Registry.selected? es attr = none) :
      Fails r s .attr (Registry.missing module attr)
  | convention {loaded : LoadedEntry Servable} (hload : r.load s.entry = .ok loaded)
      (hdetect : Convention.detect loaded.object = .undetermined) :
      Fails r s .convention (.undetermined loaded.label)
  | port (hmissing : s.port = none) : Fails r s .port .missingPort
  | address {port : UInt16} (hport : s.port = some port)
      (hunread : SocketAddress.ofText? (Settings.addressText s.host port) = none) :
      Fails r s .address (.invalidAddress (Settings.addressText s.host port))
  | lifespan {label reason : String} {app : AsyncApp} (hleads : Leads r s label (.async app))
      (hopening : (app .lifespan).opening [.startup] = .sends (.startupFailed reason)) :
      Fails r s .lifespan (.lifespanFailed reason)

/-- No stage before this one fails. -/
def Reaches (r : Registry Servable) (s : Settings) (stage : Stage) : Prop :=
  ∀ earlier e, earlier.rank < stage.rank → ¬ Fails r s earlier e

section Stages

variable {r : Registry Servable} {s : Settings} {stage : Stage} {e : StartupError} {label : String}
  {app : Application} {a : SocketAddress}

theorem Reaches.earlier (h : Reaches r s stage) {before : Stage} (hle : before.rank ≤ stage.rank) :
    Reaches r s before :=
  fun earlier e hlt => h earlier e (Nat.lt_of_lt_of_le hlt hle)

end Stages

/-! ## The run -/

section Run

variable {m : Type → Type} [Monad m] (effects : Effects m) (color : Bool) (site : Site)
  {r : Registry Servable} {s : Settings} {label : String} {a : SocketAddress}

end Run

end Gateway.Launch
